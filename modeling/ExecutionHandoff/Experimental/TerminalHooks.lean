import ExecutionHandoff.Experimental.TransportSteps

/-!
# The callbacks of a terminal runtime

A runtime calls the hooks that its takeover made for one session object, whatever
has become of that session since.  What a hook throws ends up in a network
callback, where nobody catches it.
-/

namespace ExecutionHandoff.Experimental

open Library
open StateExcept hiding read update
open Takeover
open WebSocket (maxSafeInteger)
open Ensures (reading updating running)

/-- The members of the hooks object that `handleConnect` gives to its runtime. -/
inductive RuntimeHook where
  | ready
  | disconnected
  | faulted
  | message (text : String)
  deriving DecidableEq

/-- `terminalEventCost`, which decodes once more. -/
def eventCost : TerminalWebRtcEvent → Except String Nat
  | .input dataBase64 => decodeBase64 dataBase64 maxTerminalInputBytes
  | _ => .ok 16

namespace ExperimentalTerminalWebRtcTakeover

/-! ## What a hook throws -/

section Hooks

variable (config : TerminalWebRtcConfig)

/-- A call of the session manager that nothing is caught from. -/
def callSessions (action : SessionM Unit) : TransportM Unit := fun takeover =>
  ((action takeover.sessions).1.mapError TakeoverSessionError.message, takeover.onSessions action)

/-- `acceptMessage` from `session.queue.push(event)` on. -/
def takeEvent (key : Nat) (session : TerminalSession) (event : TerminalWebRtcEvent) (cost : Nat) :
    TransportM Unit := do
  StateExcept.update fun takeover => takeover.modify key fun session =>
    { session with queue := session.queue ++ [event], queuedBytes := session.queuedBytes + cost }
  if event = .done then
    StateExcept.update fun takeover => takeover.modify key fun session =>
      { session with humanActive := false, completed := true }
    StateExcept.update fun takeover => takeover.withRuntime (takeover.runtime.fence session.id)
    callSessions (TakeoverSessionManager.revoke session.id)
    StateExcept.update fun takeover =>
      (takeover.markEnded session.id).beginRevoke session.id (.revoke session.id)

/-- `acceptMessage` with what it throws. -/
def receiveMessage (key generation : Nat) (message : String) : TransportM Unit := do
  let takeover ← StateExcept.read
  match takeover.objects[key]? with
  | none => return ()
  | some session =>
      if takeover.listens key generation session = false then
        return ()
      else
        match config.parse message with
        | none => StateExcept.update fun takeover => takeover.faultSession key session
        | some value =>
            match parseTerminalEvent value with
            | .error error => StateExcept.throwing error
            | .ok none => StateExcept.update fun takeover => takeover.faultSession key session
            | .ok (some event) =>
                match eventCost event with
                | .error error => StateExcept.throwing error
                | .ok cost =>
                    if maxEventQueueItems ≤ session.queue.length
                        ∨ maxEventQueueBytes < session.queuedBytes + cost then
                      StateExcept.update fun takeover => takeover.faultSession key session
                    else
                      takeEvent key session event cost

/-- `noteTransportDisconnect` with what it throws. -/
def noteDisconnect (interventionId : String) (epoch generation : Int) : TransportM Unit := do
  let (key, session) ← requireIntervention interventionId epoch
  if generation < 1 ∨ maxSafeInteger < generation ∨ session.completed
      ∨ session.clientGeneration.map Int.ofNat ≠ some generation then
    return ()
  else
    StateExcept.update fun takeover => takeover.modify key fun session =>
      { session with humanActive := false, disconnected := true }

/-- A hook that was made for the session object is called with the generation of its runtime. -/
def callback (key generation : Nat) : RuntimeHook → TransportM Unit
  | .ready => StateExcept.update fun takeover => takeover.hookReady key generation
  | .faulted => StateExcept.update fun takeover => takeover.hookFaulted key generation
  | .disconnected => do
      match (← StateExcept.read).objects[key]? with
      | none => return ()
      | some session => noteDisconnect session.interventionId session.epoch generation
  | .message text => receiveMessage config key generation text

end Hooks

variable {config : TerminalWebRtcConfig} {takeover : ExperimentalTerminalWebRtcTakeover}
  {key generation : Nat} {message : String}

theorem eventCost_eq {fields : List (JsString × JsonValue (Option ℚ))} {event : TerminalWebRtcEvent}
    (denotes : Denotes fields event) : eventCost event = .ok (terminalEventCost event) := by
  cases denotes with
  | input dataBase64 bytes kind data decodes => exact (Denotes.input _ bytes kind data decodes).cost
  | resize rows cols kind sized tall wide => rfl
  | done kind alone => rfl

/-- Only an object is an event, or throws. -/
theorem parse_object {value : JsonValue (Option ℚ)} (taken : parseTerminalEvent value ≠ .ok none) :
    ∃ fields, value = .object fields := by
  cases value with
  | object fields => exact ⟨fields, rfl⟩
  | null | boolean | number | string | array => exact absurd rfl taken

/-- The session manager revokes without throwing. -/
theorem callSessions_revoke (id : String) :
    callSessions (TakeoverSessionManager.revoke id) takeover =
      (.ok (), takeover.onSessions (TakeoverSessionManager.revoke id)) := by
  have revoked : Ensures (TakeoverSessionManager.revoke id) takeover.sessions
      fun result _ => result = .ok () := by
    apply reading
    split
    · exact .pure rfl
    · exact .update rfl
  unfold callSessions
  rw [show (TakeoverSessionManager.revoke id takeover.sessions).1 = .ok () from revoked]
  rfl

theorem takeEvent_eq (session : TerminalSession) (event : TerminalWebRtcEvent) :
    takeEvent key session event (terminalEventCost event) takeover =
      (.ok (), takeover.queueEvent key session event) := by
  have taken : Ensures (takeEvent key session event (terminalEventCost event)) takeover
      fun result after => result = .ok () ∧ after = takeover.queueEvent key session event := by
    unfold takeEvent queueEvent
    apply updating
    dsimp only
    split
    · apply updating
      apply updating
      apply running (callSessions_revoke session.id)
      exact .update ⟨rfl, rfl⟩
    · exact .pure ⟨rfl, rfl⟩
  exact Prod.ext taken.1 taken.2

/-! ## What becomes of a message -/

/-- A message is listened to that the parser throws on. -/
def Garbles (config : TerminalWebRtcConfig) (takeover : ExperimentalTerminalWebRtcTakeover)
    (key generation : Nat) (message : String) : Prop :=
  ∃ session fields, takeover.objects[key]? = some session ∧
    takeover.listens key generation session = true ∧
    config.parse message = some (.object fields) ∧ Garbled fields

/-- What a message may come to. -/
inductive Outcome (config : TerminalWebRtcConfig) (key : Nat) (message : String)
    (before after : ExperimentalTerminalWebRtcTakeover) : Prop where
  | ignored (same : after = before)
  | queued (session session' : TerminalSession)
      (fields : List (JsString × JsonValue (Option ℚ))) (event : TerminalWebRtcEvent)
      (found : before.objects[key]? = some session)
      (parsed : config.parse message = some (.object fields)) (denotes : Denotes fields event)
      (stored : after.objects = before.objects.set key session')
      (queue : session'.queue = session.queue ++ [event])
      (queuedBytes : session'.queuedBytes = session.queuedBytes + terminalEventCost event)
      (faulted : session'.faulted = session.faulted)
  | faulted (session : TerminalSession) (found : before.objects[key]? = some session)
      (stored : after.objects =
        before.objects.set key { session with humanActive := false, faulted := true })

variable {session : TerminalSession}

theorem modify_at (f : TerminalSession → TerminalSession)
    (found : takeover.objects[key]? = some session) :
    takeover.objects.modify key f = takeover.objects.set key (f session) := by
  rw [List.modify_eq_set_getElem?, found]
  rfl

theorem faultSession_outcome (found : takeover.objects[key]? = some session) :
    Outcome config key message takeover (takeover.faultSession key session) :=
  .faulted session found (modify_at _ found)

/-- The session object with one event more. -/
theorem queueEvent_stored (event : TerminalWebRtcEvent)
    (found : takeover.objects[key]? = some session) :
    ∃ session', (takeover.queueEvent key session event).objects = takeover.objects.set key session' ∧
      session'.queue = session.queue ++ [event] ∧
      session'.queuedBytes = session.queuedBytes + terminalEventCost event ∧
      session'.faulted = session.faulted ∧ (event = .done → session'.completed = true) := by
  unfold queueEvent
  dsimp only
  split
  · have both := modify_at (fun session =>
      { session with
        queue := session.queue ++ [event]
        queuedBytes := session.queuedBytes + terminalEventCost event
        humanActive := false
        completed := true }) found
    exact ⟨_, (List.modify_modify_eq _ _ _ _).trans both, rfl, rfl, rfl, fun _ => rfl⟩
  · rename_i going
    have stored := modify_at (fun session =>
      { session with
        queue := session.queue ++ [event]
        queuedBytes := session.queuedBytes + terminalEventCost event }) found
    exact ⟨_, stored, rfl, rfl, rfl, fun isDone => absurd isDone going⟩

theorem queueEvent_outcome
    {fields : List (JsString × JsonValue (Option ℚ))} {event : TerminalWebRtcEvent}
    (found : takeover.objects[key]? = some session)
    (parsed : config.parse message = some (.object fields)) (denotes : Denotes fields event) :
    Outcome config key message takeover (takeover.queueEvent key session event) := by
  obtain ⟨session', stored, queue, queuedBytes, faulted, _⟩ := queueEvent_stored event found
  exact .queued session session' fields event found parsed denotes stored queue queuedBytes faulted

theorem receiveMessage_spec :
    Ensures (receiveMessage config key generation message) takeover
      fun result after => after = takeover.acceptMessage config key generation message ∧
        match result with
        | .error _ => Garbles config takeover key generation message
        | .ok _ => ¬ Garbles config takeover key generation message ∧
            Outcome config key message takeover after := by
  unfold receiveMessage acceptMessage
  apply reading
  cases found : takeover.objects[key]? with
  | none =>
      exact .pure ⟨rfl, fun ⟨_, _, present, _⟩ => (by cases found.symm.trans present), .ignored rfl⟩
  | some session =>
      dsimp only
      by_cases deaf : takeover.listens key generation session = false
      · rw [if_pos deaf, if_pos deaf]
        refine .pure ⟨rfl, fun ⟨_, _, found', listens, _⟩ => ?_, .ignored rfl⟩
        cases found.symm.trans found'
        cases deaf.symm.trans listens
      · rw [if_neg deaf, if_neg deaf]
        cases parsed : config.parse message with
        | none =>
            refine .update ⟨rfl, fun ⟨_, _, _, _, parsed', _⟩ => ?_, faultSession_outcome found⟩
            cases parsed.symm.trans parsed'
        | some value =>
            dsimp only
            cases event : parseTerminalEvent value with
            | error error =>
                obtain ⟨fields, rfl⟩ := parse_object fun none => (by cases event.symm.trans none)
                exact .throwing ⟨rfl, session, fields, found, Bool.eq_true_of_not_eq_false deaf, parsed,
                  parse_error_iff.mp ⟨error, event⟩⟩
            | ok taken =>
                have clear : ¬ Garbles config takeover key generation message := by
                  rintro ⟨_, fields, _, _, parsed', garbled⟩
                  cases parsed.symm.trans parsed'
                  obtain ⟨error, throws⟩ := parse_error_iff.mpr garbled
                  cases event.symm.trans throws
                cases taken with
                | none => exact .update ⟨rfl, clear, faultSession_outcome found⟩
                | some taken =>
                    obtain ⟨fields, rfl⟩ := parse_object fun none => (by cases event.symm.trans none)
                    have denotes := parse_event_iff.mp event
                    dsimp only
                    rw [eventCost_eq denotes]
                    dsimp only
                    split
                    · exact .update ⟨rfl, clear, faultSession_outcome found⟩
                    · rw [Ensures, takeEvent_eq]
                      exact ⟨rfl, clear, queueEvent_outcome found parsed denotes⟩

/-! ## Hooks -/

theorem noteDisconnect_spec (interventionId : String) (epoch generation : Int) :
    Ensures (noteDisconnect interventionId epoch generation) takeover
      fun result after => after = takeover.noteTransportDisconnect interventionId epoch generation ∧
        (result = .ok () ↔ takeover.current? interventionId epoch ≠ none) := by
  unfold noteDisconnect noteTransportDisconnect
  cases current : takeover.current? interventionId epoch with
  | none =>
      apply ensures_requireIntervention
      · exact fun error => ⟨rfl, fun no => (by cases no), fun no => absurd rfl no⟩
      · intro key session found
        cases current.symm.trans found
  | some found =>
      apply running (requireIntervention_ok current)
      dsimp only
      split
      · exact .pure ⟨rfl, fun _ no => (by cases no), fun _ => rfl⟩
      · exact .update ⟨rfl, fun _ no => (by cases no), fun _ => rfl⟩

/-- What the hooks leave behind, whether they threw or not. -/
def hooked (config : TerminalWebRtcConfig) (takeover : ExperimentalTerminalWebRtcTakeover)
    (key generation : Nat) : RuntimeHook → ExperimentalTerminalWebRtcTakeover
  | .ready => takeover.hookReady key generation
  | .disconnected => takeover.hookDisconnected key generation
  | .faulted => takeover.hookFaulted key generation
  | .message text => takeover.acceptMessage config key generation text

/-- The hook finds nothing to throw at: a disconnect finds a session of its intervention, and a
message that is listened to is not garbled. -/
def Withstands (config : TerminalWebRtcConfig) (takeover : ExperimentalTerminalWebRtcTakeover)
    (key generation : Nat) : RuntimeHook → Prop
  | .ready | .faulted => True
  | .disconnected => ∀ session, takeover.objects[key]? = some session →
      takeover.current? session.interventionId session.epoch ≠ none
  | .message text => ¬ Garbles config takeover key generation text

theorem callback_spec (hook : RuntimeHook) :
    Ensures (callback config key generation hook) takeover fun result after =>
      after = hooked config takeover key generation hook ∧
      (result = .ok () ↔ Withstands config takeover key generation hook) ∧
      ∀ text, hook = .message text → result = .ok () → Outcome config key text takeover after := by
  cases hook with
  | ready => exact ⟨rfl, ⟨fun _ => trivial, fun _ => rfl⟩, fun _ no => by cases no⟩
  | faulted => exact ⟨rfl, ⟨fun _ => trivial, fun _ => rfl⟩, fun _ no => by cases no⟩
  | disconnected =>
      apply reading
      unfold hooked hookDisconnected Withstands
      cases found : takeover.objects[key]? with
      | none =>
          exact .pure ⟨rfl, ⟨fun _ _ no => (by cases no), fun _ => rfl⟩, fun _ no => by cases no⟩
      | some session =>
          obtain ⟨same, returns⟩ := @noteDisconnect_spec takeover session.interventionId session.epoch
            generation
          refine ⟨same, returns.trans ⟨?_, fun holds => holds session rfl⟩, fun _ no => by cases no⟩
          rintro current _ ⟨⟩
          exact current
  | message text =>
      obtain ⟨same, outcome⟩ := @receiveMessage_spec config takeover key generation text
      change Ensures (receiveMessage config key generation text) takeover _
      unfold Ensures
      cases result : (receiveMessage config key generation text takeover).1 with
      | error error =>
          rw [result] at outcome
          exact ⟨same, ⟨fun no => (by cases no), fun clear => absurd outcome clear⟩,
            fun _ _ no => by cases no⟩
      | ok =>
          rw [result] at outcome
          refine ⟨same, ⟨fun _ => outcome.1, fun _ => rfl⟩, ?_⟩
          rintro _ ⟨⟩ _
          exact outcome.2

/-- The hook returns, and a message comes to one of its outcomes. -/
def Handled (config : TerminalWebRtcConfig) (takeover : ExperimentalTerminalWebRtcTakeover)
    (key generation : Nat) (hook : RuntimeHook) : Prop :=
  Ensures (callback config key generation hook) takeover fun result after =>
    result = .ok () ∧ ∀ text, hook = .message text → Outcome config key text takeover after

/-- A hook is handled if and only if it finds nothing to throw at. -/
theorem callback_handled_iff (config : TerminalWebRtcConfig)
    (takeover : ExperimentalTerminalWebRtcTakeover) (key generation : Nat) (hook : RuntimeHook) :
    Handled config takeover key generation hook ↔ Withstands config takeover key generation hook := by
  obtain ⟨_, returns, outcome⟩ := @callback_spec config takeover key generation hook
  exact ⟨fun handled => returns.mp handled.1, fun withstands =>
    ⟨returns.mpr withstands, fun text same => outcome text same (returns.mpr withstands)⟩⟩

/-! ## A sample message -/

/-- A transport whose peers send bytes that do not decode. -/
def sampleGarbling : TerminalWebRtcConfig :=
  { sampleTransport with
    parse := fun _ => some (.object [
      (JsString.ascii "kind", .string (JsString.ascii "input")),
      (JsString.ascii "dataBase64", .string (JsString.ascii "!"))]) }

def sampleListening : List TransportEvent :=
  [.call (.start "intervention" 1 samplePrincipal),
    .network (.request (sampleRequest .prepare)), .network (.settle (.prepare sampleBinding) true),
    .network (.settle (.issue sampleBinding) true), .network (.request (sampleRequest .connect)),
    .network (.settle (.connect 0 "takeover-0" samplePageCapability samplePrincipal samplePage) true),
    .network (.peer 0 .announced), .network (.peer 0 .opened),
    .call (.activateHuman "intervention" 1)]

/-- A message of the connected peer throws into the callback of its data channel. -/
theorem sampleGarbled_thrown :
    ∃ takeover active, Run (Step sampleGarbling) initial sampleListening takeover ∧
      takeover.runtime.runtimes[0]? = some active ∧ active.inputEnabled = true ∧
      active.closing = false ∧
      ¬ Handled sampleGarbling takeover active.session active.binding.clientGeneration
        (.message "\x7b\"kind\":\"input\",\"dataBase64\":\"!\"\x7d") := by
  have listening : ((execute (next sampleGarbling) initial sampleListening).bind fun takeover =>
      takeover.runtime.runtimes[0]?.bind fun active =>
        takeover.objects[active.session]?.map fun session =>
          (active.inputEnabled, active.closing,
            takeover.listens active.session active.binding.clientGeneration session)) =
      some (true, false, true) := by
    decide +kernel
  obtain ⟨takeover, executed, listening⟩ := Option.bind_eq_some_iff.mp listening
  obtain ⟨active, running, listening⟩ := Option.bind_eq_some_iff.mp listening
  obtain ⟨session, found, listening⟩ := Option.map_eq_some_iff.mp listening
  obtain ⟨enabled, going, listens⟩ : active.inputEnabled = true ∧ active.closing = false ∧
      takeover.listens active.session active.binding.clientGeneration session = true := by
    simpa only [Prod.mk.injEq] using listening
  refine ⟨takeover, active, (run_iff_execute _ _ _ _).mpr executed, running, enabled, going,
    fun handled => ?_⟩
  refine (callback_spec _).2.1.mp handled.1 ⟨session, _, found, listens, rfl, ?_⟩
  refine .input "!" rfl rfl fun bytes decoded => ?_
  have undecodable : decodeBase64 "!" maxTerminalInputBytes = .error "terminal bytes invalid" := by
    decide +kernel
  cases undecodable.symm.trans decoded

end ExperimentalTerminalWebRtcTakeover

end ExecutionHandoff.Experimental
