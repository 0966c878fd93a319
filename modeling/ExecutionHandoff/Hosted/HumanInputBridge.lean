import Mathlib.Data.Rat.Init
import Mathlib.Algebra.Order.Ring.Unbundled.Rat
import ExecutionHandoff.Hosted.OperatorBinding
import ExecutionHandoff.Library.CodeUnits

/-!
# The hosted Human-input bridge

`HostedHumanInputBridge`: one input at a time goes to the peer.  A dispatch runs
at once up to the await of `sendInput`; the answer of the peer and the rest of
the dispatch are steps of their own, and anything may happen between them.  The
dispatches are numbered as they are made.
-/

namespace ExecutionHandoff.Hosted

open Library List

inductive HostedHumanInputErrorCode where
  | invalid
  | busy
  | closed
  | transportFailure
  | staleRoute
  deriving DecidableEq

structure HostedHumanInputError where
  code : HostedHumanInputErrorCode
  message : String
  deriving DecidableEq

namespace HostedHumanInputError

def invalid (message : String) : HostedHumanInputError := ⟨.invalid, message⟩
def closed : HostedHumanInputError := ⟨.closed, "Hosted Human input bridge is closed"⟩
def busy : HostedHumanInputError := ⟨.busy, "Hosted Human input is already in flight"⟩
def transportFailure : HostedHumanInputError :=
  ⟨.transportFailure, "Hosted Human input transport failed"⟩

end HostedHumanInputError

/-- A property of an object; a finite number is a rational, any other is absent. -/
inductive HostedInputField where
  | number (value : Option ℚ)
  | string (text : JsString)
  | other
  deriving DecidableEq

/-- The own properties of an object; a value that is no object, or an array, is absent. -/
abbrev HostedInputValue := Option (List (JsString × HostedInputField))

inductive HostedHumanInput where
  | tap (x y : ℚ)
  | scroll (deltaY : ℚ)
  | text (text : JsString)
  | key (key : JsString)
  deriving DecidableEq

structure HostedWorkerInputEnvelope where
  version : Nat
  interventionId : String
  epoch : Int
  workerGeneration : Int
  input : HostedHumanInput
  deriving DecidableEq

def hostedWorkerDataProtocolVersion : Nat := 1

def maxTextBytes : Nat := 4 * 1024
def maxKeyBytes : Nat := 64
def maxScrollDelta : ℚ := 2000

/-! ## Parsing -/

section Kinds

variable (record : List (JsString × HostedInputField))

def exactKeys (allowed : List String) : Bool :=
  record.length == allowed.length
    && record.all fun field => (allowed.map JsString.ascii).contains field.1

def property (key : String) : Option HostedInputField := record.lookup (JsString.ascii key)

def parseTap : Option HostedHumanInput :=
  match property record "x", property record "y" with
  | some (.number (some x)), some (.number (some y)) =>
      if exactKeys record ["kind", "x", "y"] ∧ 0 ≤ x ∧ x ≤ 1 ∧ 0 ≤ y ∧ y ≤ 1 then some (.tap x y)
      else none
  | _, _ => none

def parseScroll : Option HostedHumanInput :=
  match property record "deltaY" with
  | some (.number (some deltaY)) =>
      if exactKeys record ["kind", "deltaY"] ∧ deltaY.den = 1 ∧ -maxScrollDelta ≤ deltaY
          ∧ deltaY ≤ maxScrollDelta then
        some (.scroll deltaY)
      else none
  | _ => none

def parseText : Option HostedHumanInput :=
  match property record "text" with
  | some (.string text) =>
      if exactKeys record ["kind", "text"] ∧ (JsString.utf8 text).length ≤ maxTextBytes then
        some (.text text)
      else none
  | _ => none

def parseKey : Option HostedHumanInput :=
  match property record "key" with
  | some (.string key) =>
      if exactKeys record ["kind", "key"] ∧ key.length ≠ 0
          ∧ (JsString.utf8 key).length ≤ maxKeyBytes then
        some (.key key)
      else none
  | _ => none

end Kinds

/-- What was parsed, or else the error with its message. -/
def parsedOr (input : Option HostedHumanInput) (message : String) :
    Except HostedHumanInputError HostedHumanInput :=
  match input with
  | some input => .ok input
  | none => .error (.invalid message)

def parseHostedHumanInput (value : HostedInputValue) :
    Except HostedHumanInputError HostedHumanInput :=
  match value with
  | none => .error (.invalid "Invalid hosted Human input")
  | some record =>
      let kind := property record "kind"
      if kind = some (.string (JsString.ascii "tap")) then
        parsedOr (parseTap record) "Invalid hosted tap input"
      else if kind = some (.string (JsString.ascii "scroll")) then
        parsedOr (parseScroll record) "Invalid hosted scroll input"
      else if kind = some (.string (JsString.ascii "text")) then
        parsedOr (parseText record) "Invalid hosted text input"
      else if kind = some (.string (JsString.ascii "key")) then
        parsedOr (parseKey record) "Invalid hosted key input"
      else .error (.invalid "Invalid hosted Human input")

/-! ## The bridge -/

/-- What a dispatch throws. -/
inductive HostedInputFailure where
  | input (error : HostedHumanInputError)
  | binding (error : HostedBindingFailure)
  deriving DecidableEq

/-- How `sendInput` ends: with the input applied, with a rejection of the stale route, or with any
other error. -/
inductive SendOutcome where
  | applied
  | staleRoute (message : String)
  | failed
  deriving DecidableEq

structure SentInput where
  dispatch : Nat
  message : HostedWorkerInputEnvelope
  deriving DecidableEq

/-- The bridge with all that its dispatches look at.  `sent` are the calls of `sendInput`,
`inFlight` those that have no answer, and `settled` the answers whose dispatch has not gone on. -/
structure HostedHumanInputBridge where
  registry : HostedWorkerRegistry
  operator : Option HostedOperatorSessionValue
  now : Int
  closed : Bool
  busy : Bool
  dispatches : List HostedInputValue
  sent : List SentInput
  inFlight : List Nat
  settled : List (Nat × SendOutcome)
  results : List (Nat × Except HostedInputFailure Unit)
  deriving DecidableEq

inductive InputBridgeEvent where
  | dispatch (value : HostedInputValue)
  | settle (call : Nat) (outcome : SendOutcome)
  | resume (call : Nat) (outcome : SendOutcome)
  | close
  /-- The operator session, with its viewer, is replaced or gone. -/
  | operator (value : Option HostedOperatorSessionValue)
  | time (now : Int)
  | registry (op : RegistryOp)

namespace HostedHumanInputBridge

variable (clock : Nat → Int) (binding : HostedOperatorBinding) (bridge : HostedHumanInputBridge)

def initial (registry : HostedWorkerRegistry) (operator : Option HostedOperatorSessionValue)
    (now : Int) : HostedHumanInputBridge :=
  ⟨registry, operator, now, false, false, [], [], [], [], []⟩

/-- The dispatch has its result. -/
def finish (call : Nat) (result : Except HostedInputFailure Unit) : HostedHumanInputBridge :=
  { bridge with results := (call, result) :: bridge.results }

def envelope (input : HostedHumanInput) : HostedWorkerInputEnvelope :=
  ⟨hostedWorkerDataProtocolVersion, binding.worker.interventionId, binding.worker.epoch,
    binding.worker.workerGeneration, input⟩

/-- `await this.peer.sendInput(..)`. -/
def sendInput (call : Nat) (input : HostedHumanInput) : HostedHumanInputBridge :=
  { bridge with
    busy := true
    sent := bridge.sent ++ [⟨call, envelope binding input⟩]
    inFlight := call :: bridge.inFlight }

/-- `dispatch` up to its await, and up to its end where it throws. -/
def dispatch (value : HostedInputValue) : HostedHumanInputBridge :=
  let call := bridge.dispatches.length
  let called := { bridge with dispatches := bridge.dispatches ++ [value] }
  if bridge.closed then called.finish call (.error (.input .closed))
  else if bridge.busy then called.finish call (.error (.input .busy))
  else
    match parseHostedHumanInput value with
    | .error error => called.finish call (.error (.input error))
    | .ok input =>
        match assertHostedOperatorBindingCurrent binding bridge.operator bridge.registry
            bridge.now with
        | .error error => called.finish call (.error (.binding error))
        | .ok () => called.sendInput binding call input

/-- `dispatch` behind its await. -/
def resume (call : Nat) (outcome : SendOutcome) : HostedHumanInputBridge :=
  let freed := { bridge with busy := false, settled := bridge.settled.erase (call, outcome) }
  match outcome with
  | .applied => freed.finish call (.ok ())
  | .staleRoute message => freed.finish call (.error (.input ⟨.staleRoute, message⟩))
  | .failed => { freed with closed := true }.finish call (.error (.input .transportFailure))

def next : InputBridgeEvent → Option HostedHumanInputBridge
  | .dispatch value => some (bridge.dispatch binding value)
  | .settle call outcome =>
      if call ∈ bridge.inFlight then
        some { bridge with
          inFlight := bridge.inFlight.erase call
          settled := (call, outcome) :: bridge.settled }
      else none
  | .resume call outcome =>
      if (call, outcome) ∈ bridge.settled then some (bridge.resume call outcome) else none
  | .close => some { bridge with closed := true }
  | .operator operator => some { bridge with operator }
  | .time now => some { bridge with now }
  | .registry op =>
      some { bridge with registry := (HostedWorkerRegistry.perform clock op bridge.registry).2 }

abbrev Step : HostedHumanInputBridge → InputBridgeEvent → HostedHumanInputBridge → Prop :=
  StepOf (next clock binding)

/-! ## One input at a time -/

/-- The values that were dispatched. -/
def dispatched (events : List InputBridgeEvent) : List HostedInputValue :=
  events.filterMap fun event =>
    match event with
    | .dispatch value => some value
    | _ => none

/-- The bridge was closed, or an input failed otherwise than by a stale route. -/
def Ended (events : List InputBridgeEvent) : Prop :=
  .close ∈ events ∨ ∃ call, .settle call .failed ∈ events

variable {clock binding} {bridge bridge' : HostedHumanInputBridge}
  {past events : List InputBridgeEvent}

/-- A dispatch throws with nothing sent, or sends its input. -/
inductive Dispatched (binding : HostedOperatorBinding) (bridge : HostedHumanInputBridge)
    (value : HostedInputValue) : HostedHumanInputBridge → Prop
  | refused (error : HostedInputFailure) :
      Dispatched binding bridge value
        ({ bridge with dispatches := bridge.dispatches ++ [value] }.finish
          bridge.dispatches.length (.error error))
  | sent {input : HostedHumanInput} (unclosed : bridge.closed = false)
      (idle : bridge.busy = false) (parsed : parseHostedHumanInput value = .ok input)
      (current : binding.Current bridge.operator bridge.registry bridge.now) :
      Dispatched binding bridge value
        ({ bridge with dispatches := bridge.dispatches ++ [value] }.sendInput binding
          bridge.dispatches.length input)

theorem dispatch_dispatched (value : HostedInputValue) :
    Dispatched binding bridge value (bridge.dispatch binding value) := by
  unfold dispatch
  dsimp only
  split
  · exact .refused _
  · rename_i unclosed
    split
    · exact .refused _
    · rename_i idle
      split
      · exact .refused _
      · rename_i input parsed
        split
        · exact .refused _
        · rename_i passed
          exact .sent (Bool.eq_false_iff.mpr unclosed) (Bool.eq_false_iff.mpr idle) parsed
            (assertHostedOperatorBindingCurrent_ok passed)

structure Sound (binding : HostedOperatorBinding) (past : List InputBridgeEvent)
    (bridge : HostedHumanInputBridge) : Prop where
  single : bridge.inFlight.length + bridge.settled.length ≤ 1
  idle : bridge.busy = false → bridge.inFlight = [] ∧ bridge.settled = []
  made : bridge.dispatches = dispatched past
  order : (bridge.sent.map SentInput.dispatch).Pairwise (· < ·)
  parsed : ∀ sent ∈ bridge.sent, ∃ value input, bridge.dispatches[sent.dispatch]? = some value ∧
    parseHostedHumanInput value = .ok input ∧ sent.message = envelope binding input
  ended : Ended past → bridge.closed = true ∨ ∃ call, (call, .failed) ∈ bridge.settled

theorem dispatched_append (event : InputBridgeEvent) :
    dispatched (past ++ [event]) = dispatched past ++ dispatched [event] :=
  filterMap_append

theorem ended_append {event : InputBridgeEvent} (ended : Ended (past ++ [event]))
    (other : event ≠ .close) (answer : ∀ call, event ≠ .settle call .failed) : Ended past := by
  rcases ended with closed | ⟨call, failed⟩
  · rcases mem_append.mp closed with mem | mem
    · exact .inl mem
    · exact absurd (mem_singleton.mp mem).symm other
  · rcases mem_append.mp failed with mem | mem
    · exact .inr ⟨call, mem⟩
    · exact absurd (mem_singleton.mp mem).symm (answer call)

theorem initial_sound (registry : HostedWorkerRegistry)
    (operator : Option HostedOperatorSessionValue) (now : Int) :
    Sound binding [] (initial registry operator now) where
  single := Nat.zero_le _
  idle := fun _ => ⟨rfl, rfl⟩
  made := rfl
  order := List.Pairwise.nil
  parsed := fun _ no => by cases no
  ended := by
    rintro (no | ⟨_, no⟩) <;> cases no

theorem sound_dispatch (sound : Sound binding past bridge) (value : HostedInputValue) :
    Sound binding (past ++ [.dispatch value]) (bridge.dispatch binding value) := by
  have made : bridge.dispatches ++ [value] = dispatched (past ++ [.dispatch value]) := by
    rw [dispatched_append, ← sound.made]
    rfl
  have parsed : ∀ sent ∈ bridge.sent, ∃ earlier input,
      (bridge.dispatches ++ [value])[sent.dispatch]? = some earlier ∧
      parseHostedHumanInput earlier = .ok input ∧ sent.message = envelope binding input := by
    intro sent mem
    obtain ⟨earlier, input, found, rest⟩ := sound.parsed sent mem
    refine ⟨earlier, input, ?_, rest⟩
    rw [getElem?_append_left (List.getElem?_eq_some_iff.mp found).1]
    exact found
  have ended : Ended (past ++ [.dispatch value]) →
      bridge.closed = true ∨ ∃ call, (call, .failed) ∈ bridge.settled := fun ended =>
    sound.ended (ended_append ended (fun no => by cases no) fun _ no => by cases no)
  generalize after : bridge.dispatch binding value = bridge'
  have outcome : Dispatched binding bridge value (bridge.dispatch binding value) :=
    dispatch_dispatched value
  rw [after] at outcome
  cases outcome with
  | refused error => exact ⟨sound.single, sound.idle, made, sound.order, parsed, ended⟩
  | sent unclosed idle accepted current =>
      rename_i input
      obtain ⟨none, unsettled⟩ := sound.idle idle
      refine ⟨?_, (fun no => by cases no), made, ?_, ?_, ended⟩
      · change (bridge.dispatches.length :: bridge.inFlight).length + bridge.settled.length ≤ 1
        rw [none, unsettled]
        exact Nat.le_refl 1
      · change ((bridge.sent ++ [SentInput.mk _ _]).map SentInput.dispatch).Pairwise (· < ·)
        rw [map_append, pairwise_append]
        refine ⟨sound.order, pairwise_singleton _ _, fun earlier mem later last => ?_⟩
        obtain ⟨sent, sentMem, rfl⟩ := mem_map.mp mem
        cases mem_singleton.mp last
        obtain ⟨_, _, found, _⟩ := sound.parsed sent sentMem
        exact (List.getElem?_eq_some_iff.mp found).1
      · intro sent mem
        rcases mem_append.mp mem with mem | mem
        · exact parsed sent mem
        · cases mem_singleton.mp mem
          refine ⟨value, input, ?_, accepted, rfl⟩
          exact getElem?_concat_length

/-- An event that leaves the calls and their answers alone keeps what is sound. -/
theorem sound_aside (sound : Sound binding past bridge) {event : InputBridgeEvent}
    (other : event ≠ .close) (answer : ∀ call, event ≠ .settle call .failed)
    (silent : dispatched [event] = []) {registry : HostedWorkerRegistry}
    {operator : Option HostedOperatorSessionValue} {now : Int} :
    Sound binding (past ++ [event]) { bridge with registry, operator, now } where
  single := sound.single
  idle := sound.idle
  made := by rw [dispatched_append, silent, append_nil]; exact sound.made
  order := sound.order
  parsed := sound.parsed
  ended := fun ended => sound.ended (ended_append ended other answer)

theorem sound_settle (sound : Sound binding past bridge) {call : Nat} (outcome : SendOutcome)
    (flying : call ∈ bridge.inFlight) :
    Sound binding (past ++ [.settle call outcome])
      { bridge with
        inFlight := bridge.inFlight.erase call
        settled := (call, outcome) :: bridge.settled } where
  single := by
    have erased := length_erase_of_mem flying
    have some_flying := length_pos_of_mem flying
    have single := sound.single
    change (bridge.inFlight.erase call).length + ((call, outcome) :: bridge.settled).length ≤ 1
    rw [erased, length_cons]
    omega
  idle := fun idle => by
    rw [(sound.idle idle).1] at flying
    cases flying
  made := by
    rw [dispatched_append]
    change bridge.dispatches = dispatched past ++ []
    rw [append_nil]
    exact sound.made
  order := sound.order
  parsed := sound.parsed
  ended := by
    intro ended
    by_cases failed : outcome = .failed
    · subst failed
      exact .inr ⟨call, mem_cons_self⟩
    · have before : Ended past := ended_append ended (fun no => by cases no) fun _ same => by
        cases same
        exact failed rfl
      rcases sound.ended before with closed | ⟨other, mem⟩
      · exact .inl closed
      · exact .inr ⟨other, mem_cons_of_mem _ mem⟩

/-- The answer whose dispatch goes on is the only one there is. -/
theorem settled_eq (sound : Sound binding past bridge) {call : Nat} {outcome : SendOutcome}
    (answered : (call, outcome) ∈ bridge.settled) :
    bridge.inFlight = [] ∧ bridge.settled = [(call, outcome)] := by
  have single := sound.single
  have one := length_pos_of_mem answered
  obtain ⟨only, same⟩ := length_eq_one_iff.mp (show bridge.settled.length = 1 by omega)
  refine ⟨length_eq_zero_iff.mp (by omega), ?_⟩
  rw [same] at answered
  rw [same, mem_singleton.mp answered]

theorem sound_resume (sound : Sound binding past bridge) {call : Nat} {outcome : SendOutcome}
    (answered : (call, outcome) ∈ bridge.settled) :
    Sound binding (past ++ [.resume call outcome]) (bridge.resume call outcome) := by
  obtain ⟨none, only⟩ := settled_eq sound answered
  have erased : bridge.settled.erase (call, outcome) = [] := by rw [only, erase_cons_head]
  have made : bridge.dispatches = dispatched (past ++ [.resume call outcome]) := by
    rw [dispatched_append]
    change bridge.dispatches = dispatched past ++ []
    rw [append_nil]
    exact sound.made
  have ended (before : Ended (past ++ [.resume call outcome])) :
      bridge.closed = true ∨ outcome = .failed := by
    rcases sound.ended (ended_append before (fun no => by cases no) fun _ no => by cases no)
      with closed | ⟨other, mem⟩
    · exact .inl closed
    · rw [only] at mem
      cases mem_singleton.mp mem
      exact .inr rfl
  have single : bridge.inFlight.length + (bridge.settled.erase (call, outcome)).length ≤ 1 := by
    rw [none, erased]
    exact Nat.zero_le 1
  cases outcome with
  | applied =>
      refine ⟨single, fun _ => ⟨none, erased⟩, made, sound.order, sound.parsed, fun before => ?_⟩
      exact (ended before).imp_right fun no => by cases no
  | staleRoute message =>
      refine ⟨single, fun _ => ⟨none, erased⟩, made, sound.order, sound.parsed, fun before => ?_⟩
      exact (ended before).imp_right fun no => by cases no
  | failed =>
      exact ⟨single, fun _ => ⟨none, erased⟩, made, sound.order, sound.parsed, fun _ => .inl rfl⟩

theorem step_sound {event : InputBridgeEvent} (step : Step clock binding bridge event bridge')
    (sound : Sound binding past bridge) : Sound binding (past ++ [event]) bridge' := by
  cases event with
  | dispatch value =>
      cases step
      exact sound_dispatch sound value
  | settle call outcome =>
      change (if _ then _ else _) = some bridge' at step
      split at step
      · rename_i flying
        cases step
        exact sound_settle sound outcome flying
      · cases step
  | resume call outcome =>
      change (if _ then _ else _) = some bridge' at step
      split at step
      · rename_i answered
        cases step
        exact sound_resume sound answered
      · cases step
  | close =>
      cases step
      refine ⟨sound.single, sound.idle, ?_, sound.order, sound.parsed, fun _ => .inl rfl⟩
      rw [dispatched_append]
      change bridge.dispatches = dispatched past ++ []
      rw [append_nil]
      exact sound.made
  | operator operator =>
      cases step
      exact sound_aside sound (fun no => by cases no) (fun _ no => by cases no) rfl
  | time now =>
      cases step
      exact sound_aside sound (fun no => by cases no) (fun _ no => by cases no) rfl
  | registry op =>
      cases step
      exact sound_aside sound (fun no => by cases no) (fun _ no => by cases no) rfl

/-- Only a dispatch sends, and only what `Dispatched` lets it send. -/
theorem step_sent {event : InputBridgeEvent} (step : Step clock binding bridge event bridge')
    (more : bridge'.sent ≠ bridge.sent) :
    ∃ value, event = .dispatch value ∧ Dispatched binding bridge value bridge' := by
  cases event with
  | dispatch value =>
      cases step
      exact ⟨value, rfl, dispatch_dispatched value⟩
  | settle call outcome =>
      change (if _ then _ else _) = some bridge' at step
      split at step
      · cases step
        exact absurd rfl more
      · cases step
  | resume call outcome =>
      change (if _ then _ else _) = some bridge' at step
      split at step
      · cases step
        cases outcome <;> exact absurd rfl more
      · cases step
  | close | operator _ | time _ | registry _ =>
      cases step
      exact absurd rfl more

/-! ## Runs -/

/-- Inputs are sent one at a time and in the order of their dispatches, each at most once, and only
while the operator session, the viewer and the worker route are current and neither the bridge was
closed nor an input failed. -/
theorem run_sends {registry : HostedWorkerRegistry} {operator : Option HostedOperatorSessionValue}
    {now : Int} {last : HostedHumanInputBridge}
    (run : Run (Step clock binding) (initial registry operator now) events last) :
    last.inFlight.length ≤ 1 ∧
    (last.sent.map SentInput.dispatch).Pairwise (· < ·) ∧
    (∀ sent ∈ last.sent, ∃ value input, (dispatched events)[sent.dispatch]? = some value ∧
      parseHostedHumanInput value = .ok input ∧ sent.message = envelope binding input) ∧
    ∀ event after, Step clock binding last event after → after.sent ≠ last.sent →
      (∃ value input, event = .dispatch value ∧ parseHostedHumanInput value = .ok input ∧
        after.sent = last.sent ++ [⟨(dispatched events).length, envelope binding input⟩]) ∧
      last.inFlight = [] ∧ binding.Current last.operator last.registry last.now ∧
      ¬ Ended events := by
  have sound : Sound binding events last := by
    have reached := @Run.history _ _ _ (Sound binding) [] _ _ _ run (fun step sound => step_sound step sound)
      (initial_sound registry operator now)
    rwa [List.nil_append] at reached
  refine ⟨(Nat.le_add_right _ _).trans sound.single, sound.order, ?_, fun event after step more => ?_⟩
  · rw [← sound.made]
    exact sound.parsed
  · obtain ⟨value, rfl, outcome⟩ := step_sent step more
    cases outcome with
    | refused error => exact absurd rfl more
    | sent unclosed idle parsed current =>
        obtain ⟨none, unsettled⟩ := sound.idle idle
        refine ⟨⟨value, _, rfl, parsed, ?_⟩, none, current, fun ended => ?_⟩
        · rw [← sound.made]
          rfl
        · rcases sound.ended ended with closed | ⟨call, failed⟩
          · rw [unclosed] at closed
            cases closed
          · rw [unsettled] at failed
            cases failed

/-! ## Sample inputs -/

def sampleRoutes : HostedWorkerRegistry :=
  HostedWorkerRegistry.sampleRegistry HostedWorkerRegistry.sampleRouted

def sampleOperator : HostedOperatorSessionValue where
  interventionId := "intervention-1"
  epoch := 3
  principalBinding := "principal-binding-a"
  expiresAt := 60000
  sessionId := "operator-1"
  viewerGeneration := 1
  undeclared := []

def sampleInputBinding : HostedOperatorBinding :=
  ⟨sampleOperator, (HostedWorkerRegistry.sampleLease 1).request⟩

def sampleTap : HostedInputValue :=
  some [(JsString.ascii "kind", .string (JsString.ascii "tap")),
    (JsString.ascii "x", .number (some (1 / 2))), (JsString.ascii "y", .number (some 1))]

/-- An input is applied, another one meets a busy bridge, and a third one a new viewer. -/
def sampleInputs : List InputBridgeEvent :=
  [.dispatch sampleTap, .dispatch sampleTap, .settle 0 .applied, .resume 0 .applied,
    .operator (some { sampleOperator with viewerGeneration := 2 }), .dispatch sampleTap]

def sampleInputBridge : HostedHumanInputBridge :=
  (execute (next HostedWorkerRegistry.sampleClock sampleInputBinding)
    (initial sampleRoutes (some sampleOperator) 5) sampleInputs).getD
      (initial sampleRoutes (some sampleOperator) 5)

theorem sampleInputs_sent :
    sampleInputBridge.sent.map SentInput.dispatch = [0] ∧
    (sampleInputBridge.inFlight.length ≤ 1 ∧
    (sampleInputBridge.sent.map SentInput.dispatch).Pairwise (· < ·) ∧
    (∀ sent ∈ sampleInputBridge.sent, ∃ value input,
      (dispatched sampleInputs)[sent.dispatch]? = some value ∧
      parseHostedHumanInput value = .ok input ∧
      sent.message = envelope sampleInputBinding input) ∧
    ∀ event after, Step HostedWorkerRegistry.sampleClock sampleInputBinding sampleInputBridge event
        after → after.sent ≠ sampleInputBridge.sent →
      (∃ value input, event = .dispatch value ∧ parseHostedHumanInput value = .ok input ∧
        after.sent = sampleInputBridge.sent ++
          [⟨(dispatched sampleInputs).length, envelope sampleInputBinding input⟩]) ∧
      sampleInputBridge.inFlight = [] ∧
      sampleInputBinding.Current sampleInputBridge.operator sampleInputBridge.registry
        sampleInputBridge.now ∧
      ¬ Ended sampleInputs) := by
  have ran : Run (Step HostedWorkerRegistry.sampleClock sampleInputBinding)
      (initial sampleRoutes (some sampleOperator) 5) sampleInputs sampleInputBridge :=
    (run_iff_execute _ _ _ _).mpr (by decide +kernel)
  exact ⟨by decide +kernel, run_sends ran⟩

end HostedHumanInputBridge

end ExecutionHandoff.Hosted
