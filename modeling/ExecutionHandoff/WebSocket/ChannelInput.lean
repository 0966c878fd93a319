import ExecutionHandoff.Library.Histories
import ExecutionHandoff.WebSocket.ChannelSteps

/-!
# Inputs of a channel

Messages are admitted at once and handled later, one operation of the chain
after another.  The admission flag falls when the channel is told to end, when
a Done is processed and when a failure takes effect, and an input is started
only under that flag.
-/

namespace ExecutionHandoff.WebSocket

open Library List

/-- From this fact on no input may be started. -/
def ChannelFact.ends : ChannelFact → Bool
  | .doneProcessed | .disconnectCalled | .revokeCalled | .failed _ => true
  | _ => false

/-- The fact has to do with messages and inputs. -/
def ChannelFact.inbound : ChannelFact → Bool
  | .received _ _ | .inputStarted _ _ | .inputSettled _ => true
  | fact => fact.ends

/-- Messages are numbered in the order of their calls.  A started input is that of a received
message and allowed; every input before it was of an earlier message and has settled; and nothing
has ended the channel's inputs. -/
def Serial (config : WebSocketChannelConfig) (fact : ChannelFact) (past : List ChannelFact) : Prop :=
  match fact with
  | .received call _ => ∀ earlier raw, .received earlier raw ∈ past → earlier < call
  | .inputStarted call input =>
      (∃ raw, .received call raw ∈ past ∧
        parseHumanMessage config.parse raw config.maxInboundBytes config.inputPolicy =
          .ok (.input input)) ∧
      config.inputPolicy.allows input = true ∧
      (∀ earlier other, .inputStarted earlier other ∈ past →
        earlier < call ∧ .inputSettled earlier ∈ past) ∧
      ∀ ended ∈ past, ended.ends = false
  | _ => True

def waitingMessages (operations : List Operation) : List (Nat × String) :=
  operations.filterMap fun operation => match operation with
    | .message call raw => some (call, raw)
    | _ => none

/-- The bytes of the messages, as the channel counts them. -/
def messageBytes (messages : List (Nat × String)) : Int :=
  (messages.map fun message => (utf8Length message.2 : Int)).sum

/-- Everything of the channel that has to do with messages. -/
structure InputView where
  admission : Bool
  waiting : List (Nat × String)
  receives : Nat
  messages : Int
  bytes : Int
  /-- The operations of the chain that stand at an await. -/
  operations : List Activity
  history : List ChannelFact

namespace InputView

/-- An input that may be started with what was started before it. -/
structure Startable (config : WebSocketChannelConfig) (view : InputView) (call : Nat)
    (input : WebSocketTakeoverHumanInput) : Prop where
  received : ∃ raw, .received call raw ∈ view.history ∧
    parseHumanMessage config.parse raw config.maxInboundBytes config.inputPolicy =
      .ok (.input input)
  before : ∀ earlier other, .inputStarted earlier other ∈ view.history →
    earlier < call ∧ .inputSettled earlier ∈ view.history

/-- The message was received before all that wait. -/
structure Before (view : InputView) (call : Nat) : Prop where
  known : call < view.receives
  first : ∀ message ∈ view.waiting, call < message.1

structure Sound (config : WebSocketChannelConfig) (view : InputView) : Prop where
  counted : view.messages = view.waiting.length
  measured : view.bytes = messageBytes view.waiting
  fewEnough : view.messages ≤ config.maxQueuedInboundMessages
  smallEnough : view.bytes ≤ config.maxQueuedInboundBytes
  alone : view.operations = view.operations.head?.toList
  gate : ∀ fact ∈ view.history, fact.ends = true → view.admission = false
  ordered : view.waiting.Pairwise fun first second => first.1 < second.1
  fresh : ∀ call raw, .received call raw ∈ view.history → call < view.receives
  received : ∀ message ∈ view.waiting, .received message.1 message.2 ∈ view.history
  /-- What was started comes before all that waits, and has settled or is running. -/
  started : ∀ call input, .inputStarted call input ∈ view.history →
    Before view call ∧
      (.inputSettled call ∈ view.history ∨
        ∃ other, view.operations = [⟨.input call other, .operation⟩])
  /-- The input in hand comes before all that waits, and may be started unless it was. -/
  held : ∀ call input await, view.operations = [⟨.input call input, await⟩] →
    Before view call ∧
      (await = .beginUse → Startable config view call input)
  serial : Each (Serial config) view.history

end InputView

namespace ExperimentalWebSocketTakeoverChannel

/-- What happened to messages and inputs. -/
def history (channel : ExperimentalWebSocketTakeoverChannel) : List ChannelFact :=
  channel.log.filter ChannelFact.inbound

def inputView (channel : ExperimentalWebSocketTakeoverChannel) : InputView where
  admission := channel.inputAdmissionOpen
  waiting := waitingMessages channel.operationTail
  receives := channel.receives
  messages := channel.queuedInboundMessagesValue
  bytes := channel.queuedInboundBytesValue
  operations := channel.activities.filter fun activity => activity.work.queued
  history := channel.history

end ExperimentalWebSocketTakeoverChannel

/-! ## Moves -/

namespace InputView

variable {config : WebSocketChannelConfig} {view : InputView} (sound : view.Sound config)
include sound

/-- Everything started has settled when no input is running. -/
theorem Sound.allSettled
    (quiet : ∀ call input, view.operations ≠ [⟨.input call input, .operation⟩]) :
    ∀ call input, .inputStarted call input ∈ view.history → .inputSettled call ∈ view.history := by
  intro call input mem
  exact (sound.started call input mem).2.resolve_right fun ⟨other, running⟩ =>
    quiet call other running

/-- The gate falls. -/
theorem Sound.refuse : Sound config { view with admission := false } :=
  { sound with
    gate := fun _ _ _ => rfl
    started := fun call input mem =>
      have ⟨before, settled⟩ := sound.started call input mem
      ⟨⟨before.known, before.first⟩, settled⟩
    held := fun call input await holding =>
      have ⟨before, startable⟩ := sound.held call input await holding
      ⟨⟨before.known, before.first⟩, fun fresh =>
        ⟨(startable fresh).received, (startable fresh).before⟩⟩ }

/-- A call of `receiveText` is counted. -/
theorem Sound.call : Sound config { view with receives := view.receives + 1 } :=
  { sound with
    fresh := fun call raw mem => Nat.lt_succ_of_lt (sound.fresh call raw mem)
    started := fun call input mem =>
      have ⟨before, settled⟩ := sound.started call input mem
      ⟨⟨Nat.lt_succ_of_lt before.known, before.first⟩, settled⟩
    held := fun call input await holding =>
      have ⟨before, startable⟩ := sound.held call input await holding
      ⟨⟨Nat.lt_succ_of_lt before.known, before.first⟩, fun fresh =>
        ⟨(startable fresh).received, (startable fresh).before⟩⟩ }

/-- Something ends the channel's inputs. -/
theorem Sound.ended (fact : ChannelFact) (ends : fact.ends = true) :
    Sound config { view with admission := false, history := fact :: view.history } :=
  { sound with
    gate := fun _ _ _ => rfl
    fresh := by
      intro call raw mem
      rcases mem_cons.mp mem with rfl | mem
      · cases ends
      · exact sound.fresh call raw mem
    received := fun message mem => .tail _ (sound.received message mem)
    started := by
      intro call input mem
      rcases mem_cons.mp mem with rfl | mem
      · cases ends
      · obtain ⟨before, settled | running⟩ := sound.started call input mem
        · exact ⟨⟨before.known, before.first⟩, .inl (.tail _ settled)⟩
        · exact ⟨⟨before.known, before.first⟩, .inr running⟩
    held := by
      intro call input await holding
      obtain ⟨before, startable⟩ := sound.held call input await holding
      refine ⟨⟨before.known, before.first⟩, fun fresh => ⟨?_, ?_⟩⟩
      · obtain ⟨raw, mem, parsed⟩ := (startable fresh).received
        exact ⟨raw, .tail _ mem, parsed⟩
      · intro earlier other mem
        rcases mem_cons.mp mem with rfl | mem
        · cases ends
        · obtain ⟨less, settled⟩ := (startable fresh).before earlier other mem
          exact ⟨less, .tail _ settled⟩
    serial := by
      refine .cons ?_ sound.serial
      cases fact <;> trivial }

/-- A message is admitted. -/
theorem Sound.receive (raw : String)
    (room : view.messages + 1 ≤ config.maxQueuedInboundMessages)
    (space : view.bytes + utf8Length raw ≤ config.maxQueuedInboundBytes) :
    Sound config
      { view with
        waiting := view.waiting ++ [(view.receives, raw)]
        receives := view.receives + 1
        messages := view.messages + 1
        bytes := view.bytes + utf8Length raw
        history := .received view.receives raw :: view.history } where
  counted := by
    have counted := sound.counted
    simp only [length_append, length_singleton]
    omega
  measured := by
    have measured := sound.measured
    simp only [messageBytes, map_append, sum_append, map_cons, map_nil,
      sum_cons, sum_nil, add_zero] at measured ⊢
    rw [measured]
  fewEnough := room
  smallEnough := space
  alone := sound.alone
  gate := by
    intro fact mem ends
    rcases mem_cons.mp mem with rfl | mem
    · cases ends
    · exact sound.gate fact mem ends
  ordered := by
    refine pairwise_append.mpr ⟨sound.ordered, pairwise_singleton _ _, ?_⟩
    intro message mem last same
    rw [mem_singleton.mp same]
    exact sound.fresh _ _ (sound.received message mem)
  fresh := by
    intro call other mem
    rcases mem_cons.mp mem with same | mem
    · cases same
      exact Nat.lt_succ_self _
    · exact Nat.lt_succ_of_lt (sound.fresh call other mem)
  received := by
    intro message mem
    rcases mem_append.mp mem with mem | last
    · exact .tail _ (sound.received message mem)
    · rw [mem_singleton.mp last]
      exact .head _
  started := by
    intro call input mem
    rcases mem_cons.mp mem with same | mem
    · cases same
    obtain ⟨before, settled⟩ := sound.started call input mem
    refine ⟨⟨Nat.lt_succ_of_lt before.known, fun message among => ?_⟩,
      settled.imp_left fun settled => .tail _ settled⟩
    rcases mem_append.mp among with among | last
    · exact before.first message among
    · rw [mem_singleton.mp last]
      exact before.known
  held := by
    intro call input await holding
    obtain ⟨before, startable⟩ := sound.held call input await holding
    refine ⟨⟨Nat.lt_succ_of_lt before.known, fun message among => ?_⟩, fun fresh => ⟨?_, ?_⟩⟩
    · rcases mem_append.mp among with among | last
      · exact before.first message among
      · rw [mem_singleton.mp last]
        exact before.known
    · obtain ⟨other, mem, parsed⟩ := (startable fresh).received
      exact ⟨other, .tail _ mem, parsed⟩
    · intro earlier other mem
      rcases mem_cons.mp mem with same | mem
      · cases same
      · obtain ⟨less, settled⟩ := (startable fresh).before earlier other mem
        exact ⟨less, .tail _ settled⟩
  serial := .cons (fun earlier other mem => sound.fresh earlier other mem) sound.serial

/-- The first message leaves the chain. -/
theorem Sound.take {call : Nat} {raw : String} {rest : List (Nat × String)}
    (first : view.waiting = (call, raw) :: rest) :
    Sound config
      { view with
        waiting := rest
        messages := view.messages - 1
        bytes := view.bytes - utf8Length raw } :=
  { sound with
    counted := by
      have counted := sound.counted
      rw [first, length_cons] at counted
      dsimp only
      omega
    measured := by
      have measured := sound.measured
      rw [first] at measured
      simp only [messageBytes, map_cons, sum_cons] at measured ⊢
      omega
    fewEnough := by
      have few := sound.fewEnough
      dsimp only
      omega
    smallEnough := by
      have small := sound.smallEnough
      dsimp only
      omega
    ordered := by
      have ordered := sound.ordered
      rw [first] at ordered
      exact ordered.of_cons
    received := fun message mem => sound.received message (by rw [first]; exact .tail _ mem)
    started := by
      intro earlier input mem
      obtain ⟨before, settled⟩ := sound.started earlier input mem
      exact ⟨⟨before.known, fun message among => before.first message (by
        rw [first]; exact .tail _ among)⟩, settled⟩
    held := by
      intro earlier input await holding
      obtain ⟨before, startable⟩ := sound.held earlier input await holding
      exact ⟨⟨before.known, fun message among => before.first message (by
        rw [first]; exact .tail _ among)⟩, fun fresh =>
          ⟨(startable fresh).received, (startable fresh).before⟩⟩ }

/-- The operation in hand is replaced or ends, while no input is running. -/
theorem Sound.replace (operations : List Activity) (alone : operations = operations.head?.toList)
    (quiet : ∀ call input, view.operations ≠ [⟨.input call input, .operation⟩])
    (held : ∀ call input await, operations = [⟨.input call input, await⟩] →
      Before view call ∧ (await = .beginUse → Startable config view call input)) :
    Sound config { view with operations } :=
  { sound with
    alone := alone
    started := by
      intro call input mem
      have before := (sound.started call input mem).1
      exact ⟨⟨before.known, before.first⟩, .inl (sound.allSettled quiet call input mem)⟩
    held := by
      intro call input await holding
      obtain ⟨before, startable⟩ := held call input await holding
      exact ⟨⟨before.known, before.first⟩, fun fresh =>
        ⟨(startable fresh).received, (startable fresh).before⟩⟩ }

/-- The input of the first message comes into hand. -/
theorem Sound.hold {call : Nat} {raw : String} {rest : List (Nat × String)}
    {input : WebSocketTakeoverHumanInput} (first : view.waiting = (call, raw) :: rest)
    (idle : view.operations = [])
    (parsed : parseHumanMessage config.parse raw config.maxInboundBytes config.inputPolicy =
      .ok (.input input)) :
    Sound config
      { view with
        waiting := rest
        messages := view.messages - 1
        bytes := view.bytes - utf8Length raw
        operations := [⟨.input call input, .beginUse⟩] } := by
  have taken := sound.take first
  have among : (call, raw) ∈ view.waiting := by rw [first]; exact .head _
  have quiet : ∀ call input, view.operations ≠ [⟨.input call input, .operation⟩] := by
    intro call input running
    rw [idle] at running
    cases running
  refine taken.replace _ rfl quiet ?_
  intro other input' await same
  cases same
  refine ⟨⟨sound.fresh _ _ (sound.received _ among), ?_⟩, fun _ => ⟨?_, ?_⟩⟩
  · have ordered := sound.ordered
    rw [first] at ordered
    exact (pairwise_cons.mp ordered).1
  · exact ⟨raw, sound.received _ among, parsed⟩
  · intro earlier other mem
    exact ⟨(sound.started earlier other mem).1.first _ among,
      sound.allSettled quiet earlier other mem⟩

/-- The input in hand is started, under the gate. -/
theorem Sound.start {call : Nat} {input : WebSocketTakeoverHumanInput}
    (holding : view.operations = [⟨.input call input, .beginUse⟩])
    (admitted : view.admission = true) :
    Sound config
      { view with
        operations := [⟨.input call input, .operation⟩]
        history := .inputStarted call input :: view.history } :=
  { sound with
    alone := rfl
    gate := by
      intro fact mem ends
      rcases mem_cons.mp mem with rfl | mem
      · cases ends
      · exact sound.gate fact mem ends
    fresh := by
      intro other raw mem
      rcases mem_cons.mp mem with same | mem
      · cases same
      · exact sound.fresh other raw mem
    received := fun message mem => .tail _ (sound.received message mem)
    started := by
      obtain ⟨before, startable⟩ := sound.held call input .beginUse holding
      intro other input' mem
      rcases mem_cons.mp mem with same | mem
      · cases same
        exact ⟨⟨before.known, before.first⟩, .inr ⟨input, rfl⟩⟩
      · have earlier := (sound.started other input' mem).1
        have settled := ((startable rfl).before other input' mem).2
        exact ⟨⟨earlier.known, earlier.first⟩, .inl (.tail _ settled)⟩
    held := by
      obtain ⟨before, _⟩ := sound.held call input .beginUse holding
      intro other input' await same
      cases same
      exact ⟨⟨before.known, before.first⟩, fun fresh => by cases fresh⟩
    serial := by
      obtain ⟨_, startable⟩ := sound.held call input .beginUse holding
      obtain ⟨raw, mem, parsed⟩ := (startable rfl).received
      refine .cons ⟨⟨raw, mem, parsed⟩, parseHumanMessage_allows parsed, (startable rfl).before, ?_⟩
        sound.serial
      intro fact mem
      by_contra ends
      have closed := sound.gate fact mem (by simpa using ends)
      rw [admitted] at closed
      cases closed }

/-- The running input settles. -/
theorem Sound.settle {call : Nat} {input : WebSocketTakeoverHumanInput} (thrown : Option Thrown)
    (running : view.operations = [⟨.input call input, .operation⟩]) :
    Sound config
      { view with
        operations := [⟨.input call input, .endUse thrown⟩]
        history := .inputSettled call :: view.history } :=
  { sound with
    alone := rfl
    gate := by
      intro fact mem ends
      rcases mem_cons.mp mem with rfl | mem
      · cases ends
      · exact sound.gate fact mem ends
    fresh := by
      intro other raw mem
      rcases mem_cons.mp mem with same | mem
      · cases same
      · exact sound.fresh other raw mem
    received := fun message mem => .tail _ (sound.received message mem)
    started := by
      intro other input' mem
      rcases mem_cons.mp mem with same | mem
      · cases same
      obtain ⟨before, settled | ⟨current, same⟩⟩ := sound.started other input' mem
      · exact ⟨⟨before.known, before.first⟩, .inl (.tail _ settled)⟩
      · rw [running] at same
        cases same
        exact ⟨⟨before.known, before.first⟩, .inl (.head _)⟩
    held := by
      obtain ⟨before, _⟩ := sound.held call input .operation running
      intro other input' await same
      cases same
      exact ⟨⟨before.known, before.first⟩, fun fresh => by cases fresh⟩
    serial := .cons trivial sound.serial }

end InputView

/-! ## What the functions of the channel do to its inputs -/

namespace ExperimentalWebSocketTakeoverChannel

variable {config : WebSocketChannelConfig} {channel : ExperimentalWebSocketTakeoverChannel}

/-- Room for work in the channel: an operation of the chain finds no other, and an input keeps its
place before all that waits. -/
structure Room (channel : ExperimentalWebSocketTakeoverChannel) (work : Work) : Prop where
  idle : work.queued = true → channel.inputView.operations = []
  before : ∀ call input, work = .input call input → channel.inputView.Before call

variable {work : Work} {activity : Activity}

theorem Room.of_other (other : work.queued = false) : Room channel work where
  idle := fun queued => by rw [other] at queued; cases queued
  before := fun call input same => by subst same; cases other

theorem await_other_view {await : Await} (other : work.queued = false) :
    (channel.await work await).inputView = channel.inputView := by
  simp only [inputView, history, ExperimentalWebSocketTakeoverChannel.await, filter_cons,
    other, Bool.false_eq_true, if_false]

theorem await_queued_view {await : Await} (queued : work.queued = true) :
    (channel.await work await).inputView =
      { channel.inputView with operations := ⟨work, await⟩ :: channel.inputView.operations } := by
  simp only [inputView, history, ExperimentalWebSocketTakeoverChannel.await, filter_cons,
    queued, if_true]

theorem await_input {await : Await} (sound : channel.inputView.Sound config)
    (room : Room channel work) (later : await ≠ .beginUse) :
    (channel.await work await).inputView.Sound config := by
  cases queued : work.queued with
  | false => rwa [await_other_view queued]
  | true =>
      have idle := room.idle queued
      rw [await_queued_view queued, idle]
      refine sound.replace _ rfl (fun call input running => ?_) fun call input other same => ?_
      · rw [idle] at running
        cases running
      · cases same
        exact ⟨room.before call input rfl, fun fresh => absurd fresh later⟩

@[simp] theorem finish_inputView (work : Work) :
    (channel.finish work).inputView = channel.inputView := by
  cases work <;> rfl

theorem failClosed_input {code : WebSocketTakeoverFailureCode}
    (sound : channel.inputView.Sound config) (room : Room channel work) :
    (channel.failClosed work code).inputView.Sound config := by
  have ended : (channel.fail code).inputView.Sound config :=
    sound.ended (.failed code) rfl
  have room' : Room (channel.fail code) work :=
    ⟨room.idle, fun call input same =>
      ⟨(room.before call input same).known, (room.before call input same).first⟩⟩
  unfold failClosed
  split
  · rwa [finish_inputView]
  · rwa [finish_inputView]
  · rwa [finish_inputView]
  all_goals
    split
    · rw [finish_inputView]
      exact ended
    · exact await_input ended room' (by simp)

theorem complete_input (sound : channel.inputView.Sound config)
    (idle : channel.inputView.operations = []) : channel.complete.inputView.Sound config := by
  unfold complete
  split
  · exact sound
  · refine await_input ?_ ⟨fun _ => idle, fun call input same => by cases same⟩ (by simp)
    exact sound.ended .doneProcessed rfl

theorem runDisconnect_input (sound : channel.inputView.Sound config)
    (idle : channel.inputView.operations = []) :
    channel.runDisconnect.inputView.Sound config := by
  unfold runDisconnect
  split
  · exact sound
  split
  · exact sound
  · exact await_input sound ⟨fun _ => idle, fun call input same => by cases same⟩ (by simp)

theorem runRevoke_input (sound : channel.inputView.Sound config)
    (idle : channel.inputView.operations = []) : channel.runRevoke.inputView.Sound config := by
  unfold runRevoke
  split
  · exact sound
  split
  · exact sound
  · exact await_input sound ⟨fun _ => idle, fun call input same => by cases same⟩ (by simp)

theorem afterRelease_inputView (work : Work) (outcome : Settled) :
    (channel.afterRelease work outcome).inputView = channel.inputView := by
  cases outcome with
  | fulfilled => cases work <;> rfl
  | rejected thrown => rfl

theorem afterFailing_inputView (work : Work) (failure : WebSocketTakeoverFailureCode)
    (outcome : Settled) :
    (channel.afterFailing work failure outcome).inputView = channel.inputView := by
  cases outcome with
  | fulfilled => exact finish_inputView work
  | rejected thrown => exact finish_inputView work

/-- What concerns frames only leaves the messages alone. -/
theorem FrameOnly.inputView {before after : ExperimentalWebSocketTakeoverChannel}
    (frames : FrameOnly before after) : after.inputView = before.inputView := by
  obtain ⟨added, activities, loops⟩ := frames.activities
  obtain ⟨facts, log, about⟩ := frames.log
  have operations : added.filter (fun activity => activity.work.queued) = [] := by
    refine filter_eq_nil_iff.mpr fun activity mem queued => ?_
    have loop := (loops activity mem).1
    cases work : activity.work <;> simp [work, Work.isFrame, Work.queued] at loop queued
  have silent : facts.filter ChannelFact.inbound = [] := by
    refine filter_eq_nil_iff.mpr fun fact mem inbound => ?_
    have frame := about fact mem
    cases fact <;> first | (cases frame; done) | cases inbound
  simp only [ExperimentalWebSocketTakeoverChannel.inputView, history, frames.inputAdmissionOpen,
    frames.operationTail, frames.receives, frames.messages, frames.bytes, activities, log,
    filter_append, operations, silent, nil_append]

theorem Framewise.input {after : ExperimentalWebSocketTakeoverChannel}
    (framewise : Framewise channel after) (sound : channel.inputView.Sound config) :
    after.inputView.Sound config := by
  cases framewise with
  | only frames => rwa [frames.inputView]
  | fails frames work code live other =>
      refine failClosed_input ?_ (.of_other other)
      rwa [frames.inputView]

theorem useSucceeded_input (sound : channel.inputView.Sound config) :
    (channel.useSucceeded config work).inputView.Sound config := by
  unfold useSucceeded
  split
  · rename_i current
    have noted : (channel.noteSent current).inputView.Sound config := sound
    exact (sendFrameLoop_framewise config _ _).input noted
  · rwa [finish_inputView]

theorem useThrew_input {thrown : Thrown} (sound : channel.inputView.Sound config)
    (room : Room channel work) : (channel.useThrew work thrown).inputView.Sound config := by
  unfold useThrew
  split
  · rwa [finish_inputView]
  · exact failClosed_input sound room

/-! ## Steps -/

/-- The channel without an activity that has come to the end of its await. -/
def resumed (channel : ExperimentalWebSocketTakeoverChannel) (activity : Activity) :
    ExperimentalWebSocketTakeoverChannel :=
  { channel with activities := channel.activities.erase activity }

theorem resumed_other_view (other : activity.work.queued = false) :
    (channel.resumed activity).inputView = channel.inputView := by
  have same : (channel.activities.erase activity).filter (fun activity => activity.work.queued) =
      channel.activities.filter fun activity => activity.work.queued := by
    rw [← erase_filter, erase_of_not_mem]
    intro mem
    have queued := (mem_filter.mp mem).2
    simp [other] at queued
  simp only [inputView, resumed, same]
  rfl

/-- An operation of the chain that stands at an await is the only one. -/
theorem operations_of_mem (sound : channel.inputView.Sound config)
    (mem : activity ∈ channel.activities) (queued : activity.work.queued = true) :
    channel.inputView.operations = [activity] := by
  have among : activity ∈ channel.inputView.operations := mem_filter.mpr ⟨mem, queued⟩
  have alone := sound.alone
  cases head : channel.inputView.operations.head? with
  | none =>
      rw [alone, head] at among
      cases among
  | some other =>
      rw [alone, head] at among
      rw [alone, head, mem_singleton.mp among]
      rfl

theorem resumed_queued_view (sound : channel.inputView.Sound config)
    (mem : activity ∈ channel.activities) (queued : activity.work.queued = true) :
    (channel.resumed activity).inputView = { channel.inputView with operations := [] } := by
  have none : (channel.activities.erase activity).filter (fun activity => activity.work.queued) =
      [] := by
    have only : channel.activities.filter (fun activity => activity.work.queued) = [activity] :=
      operations_of_mem sound mem queued
    rw [← erase_filter, only, erase_cons_head]
  simp only [inputView, resumed, none]
  rfl

/-- What is left of the channel when its only operation goes on, unless an input was running. -/
theorem resumed_sound (sound : channel.inputView.Sound config)
    (mem : activity ∈ channel.activities) (passed : activity.await ≠ .operation) :
    (channel.resumed activity).inputView.Sound config ∧
      Room (channel.resumed activity) activity.work := by
  cases queued : activity.work.queued with
  | false => exact ⟨by rwa [resumed_other_view queued], .of_other queued⟩
  | true =>
      have only := operations_of_mem sound mem queued
      have view := resumed_queued_view sound mem queued
      have quiet : ∀ call input,
          channel.inputView.operations ≠ [⟨.input call input, .operation⟩] := by
        intro call input running
        rw [only] at running
        cases running
        exact passed rfl
      refine ⟨by rw [view]; exact sound.replace [] rfl quiet (fun call input await same => by
        cases same), ?_, ?_⟩
      · exact fun _ => by rw [view]
      · intro call input same
        obtain ⟨work, await⟩ := activity
        subst same
        have before := (sound.held call input await only).1
        rw [view]
        exact ⟨before.known, before.first⟩

/-- The lease has begun the use of an input. -/
theorem operate_input_sound {call : Nat} {input : WebSocketTakeoverHumanInput}
    (sound : channel.inputView.Sound config)
    (mem : ⟨.input call input, .beginUse⟩ ∈ channel.activities) :
    ((channel.resumed ⟨.input call input, .beginUse⟩).operate (.input call input)).inputView.Sound
      config := by
  obtain ⟨left, room⟩ := resumed_sound sound mem (by simp)
  have only := operations_of_mem sound mem rfl
  have view := resumed_queued_view sound mem rfl
  simp only [operate]
  split
  · exact await_input left room (by simp)
  · rename_i live
    have admitted : (channel.resumed ⟨.input call input, .beginUse⟩).inputAdmissionOpen = true := by
      simpa using fun closed => live (.inr closed)
    rw [await_queued_view rfl]
    have started := sound.start only admitted
    change { (channel.resumed ⟨.input call input, .beginUse⟩).inputView with
      operations := ⟨.input call input, .operation⟩ ::
        (channel.resumed ⟨.input call input, .beginUse⟩).inputView.operations
      history := .inputStarted call input ::
        (channel.resumed ⟨.input call input, .beginUse⟩).inputView.history }.Sound config
    rw [view]
    exact started

theorem operate_input (sound : channel.inputView.Sound config)
    (room : Room channel work) (other : ∀ call input, work ≠ .input call input) :
    (channel.operate work).inputView.Sound config := by
  cases work with
  | input call input => exact absurd rfl (other call input)
  | start | frame current =>
      refine await_input ?_ (.of_other rfl) (by simp)
      exact sound
  | ping nonce =>
      have told : (channel.record (.told (.pong nonce))).inputView.Sound config := sound
      exact await_input told ⟨room.idle, fun call input same => by cases same⟩ (by simp)
  | done | disconnect | revoke | refuse | push => exact await_input sound room (by simp)

/-- The operation of a bound use has settled. -/
theorem settle_operation_input {outcome : Settled} (sound : channel.inputView.Sound config)
    (mem : ⟨work, .operation⟩ ∈ channel.activities) :
    (((channel.resumed ⟨work, .operation⟩).noteSettled work).await work
      (.endUse outcome.thrown)).inputView.Sound config := by
  cases queued : work.queued with
  | false =>
      rw [await_other_view queued]
      have left : (channel.resumed ⟨work, .operation⟩).inputView.Sound config := by
        rwa [resumed_other_view queued]
      cases work with
      | start | frame current | push => exact left
      | _ => cases queued
  | true =>
      have only := operations_of_mem sound mem queued
      have view := resumed_queued_view sound mem queued
      rw [await_queued_view queued]
      cases work with
      | input call input =>
          have settled := sound.settle outcome.thrown only
          change { (channel.resumed ⟨.input call input, .operation⟩).inputView with
            operations := ⟨.input call input, .endUse outcome.thrown⟩ ::
              (channel.resumed ⟨.input call input, .operation⟩).inputView.operations
            history := .inputSettled call ::
              (channel.resumed ⟨.input call input, .operation⟩).inputView.history }.Sound config
          rw [view]
          exact settled
      | _ =>
          simp only [noteSettled]
          rw [view]
          refine sound.replace _ rfl (fun call input running => ?_) fun call input await same => ?_
          · rw [only] at running
            cases running
          · cases same

theorem settle_input {outcome : Settled}
    (sound : channel.inputView.Sound config) (mem : activity ∈ channel.activities) :
    (channel.settle config activity outcome).inputView.Sound config := by
  obtain ⟨work, await⟩ := activity
  cases await with
  | beginUse =>
      cases outcome with
      | fulfilled =>
          simp only [settle]
          cases work with
          | input call input => exact operate_input_sound sound mem
          | _ =>
              obtain ⟨left, room⟩ := resumed_sound sound mem (by simp)
              exact operate_input left room (by simp)
      | rejected thrown =>
          obtain ⟨left, room⟩ := resumed_sound sound mem (by simp)
          exact failClosed_input left room
  | operation =>
      simp only [settle]
      exact settle_operation_input sound mem
  | endUse thrown =>
      obtain ⟨left, room⟩ := resumed_sound sound mem (by simp)
      cases outcome with
      | fulfilled =>
          cases thrown with
          | none => exact useSucceeded_input left
          | some thrown => exact useThrew_input left room
      | rejected _ => cases thrown <;> exact failClosed_input left room
  | complete =>
      obtain ⟨left, room⟩ := resumed_sound sound mem (by simp)
      cases outcome with
      | fulfilled => exact left
      | rejected thrown => exact failClosed_input left room
  | release =>
      obtain ⟨left, _⟩ := resumed_sound sound mem (by simp)
      simp only [settle]
      rw [afterRelease_inputView]
      exact left
  | failing failure =>
      obtain ⟨left, _⟩ := resumed_sound sound mem (by simp)
      simp only [settle]
      rw [afterFailing_inputView]
      exact left

theorem receiveText_input {raw : String} (sound : channel.inputView.Sound config) :
    (channel.receiveText config raw).inputView.Sound config := by
  unfold receiveText
  dsimp only
  have refuses (error : WebSocketTakeoverError) : (({ channel with
      receives := channel.receives + 1 }).enqueueRefusal error).inputView =
      { channel.inputView with admission := false, receives := channel.receives + 1 } := by
    simp only [inputView, history, enqueueRefusal, enqueue, waitingMessages, filterMap_append]
    simp
  split
  · exact sound.call
  split
  · rw [refuses]
    exact sound.call.refuse
  split
  · rw [refuses]
    exact sound.call.refuse
  · rename_i reserved room
    unfold reserveQueuedInbound at room
    dsimp only at room
    split at room
    · cases room
    · rename_i within
      cases room
      have received := sound.receive raw
        (not_lt.mp fun passed => within (.inl passed)) (not_lt.mp fun passed => within (.inr passed))
      have view : ((({ channel with
          receives := channel.receives + 1
          queuedInboundMessagesValue := channel.queuedInboundMessagesValue + 1
          queuedInboundBytesValue := channel.queuedInboundBytesValue + (utf8Length raw : Int) }).record
            (.received channel.receives raw)).enqueue (.message channel.receives raw)).inputView =
          { channel.inputView with
            waiting := channel.inputView.waiting ++ [(channel.receives, raw)]
            receives := channel.receives + 1
            messages := channel.queuedInboundMessagesValue + 1
            bytes := channel.queuedInboundBytesValue + (utf8Length raw : Int)
            history := .received channel.receives raw :: channel.history } := by
        simp only [inputView, history, record, enqueue, waitingMessages, filterMap_append]
        rfl
      rw [view]
      exact received

/-- The first message of the chain is taken. -/
theorem takeMessage_input {call : Nat} {raw : String} {rest : List Operation}
    (sound : channel.inputView.Sound config)
    (first : channel.operationTail = .message call raw :: rest)
    (idle : channel.inputView.operations = []) :
    (({ channel with operationTail := rest }).takeMessage config call raw).inputView.Sound config := by
  have waiting : channel.inputView.waiting = (call, raw) :: waitingMessages rest := by
    simp only [inputView, first]
    rfl
  have taken : ((({ channel with operationTail := rest }).releaseQueuedInbound
      (utf8Length raw)).inputView).Sound config := sound.take waiting
  have room (work : Work) (other : ∀ call input, work ≠ .input call input) :
      Room (({ channel with operationTail := rest }).releaseQueuedInbound (utf8Length raw)) work :=
    ⟨fun _ => idle, fun call input same => absurd same (other call input)⟩
  unfold takeMessage
  dsimp only
  split
  · exact taken
  split
  · exact failClosed_input taken (room .refuse (by simp))
  · exact taken
  · exact taken
  · rename_i nonce _
    rw [runBoundUse, await_queued_view rfl]
    refine taken.replace _ ?_ (fun call input running => ?_) fun call input await same => ?_
    · exact congrArg (fun rest => (⟨.ping nonce, .beginUse⟩ : Activity) :: rest) idle
    · have none := idle.symm.trans running
      cases none
    · cases same
  · exact complete_input taken idle
  · rename_i input parsed
    rw [runBoundUse, await_queued_view rfl]
    have held := sound.hold waiting idle parsed
    have none : (({ channel with operationTail := rest }).releaseQueuedInbound
        (utf8Length raw)).inputView.operations = [] := idle
    rw [none]
    exact held

theorem begin_input {operation : Operation} {rest : List Operation}
    (sound : channel.inputView.Sound config) (first : channel.operationTail = operation :: rest)
    (idle : channel.inputView.operations = []) :
    (({ channel with operationTail := rest }).begin config operation).inputView.Sound config := by
  have left (others : waitingMessages (operation :: rest) = waitingMessages rest) :
      ({ channel with operationTail := rest } :
        ExperimentalWebSocketTakeoverChannel).inputView.Sound config := by
    have view : ({ channel with operationTail := rest } :
        ExperimentalWebSocketTakeoverChannel).inputView = channel.inputView := by
      simp only [inputView, history, first, others]
    rwa [view]
  cases operation with
  | refuse error =>
      exact failClosed_input (left rfl) ⟨fun _ => idle, fun call input same => by cases same⟩
  | message call raw => exact takeMessage_input sound first idle
  | disconnect => exact runDisconnect_input (left rfl) idle
  | revoke => exact runRevoke_input (left rfl) idle

/-- The chain goes on only when none of its operations stands at an await. -/
theorem idle_of_not_busy (free : channel.busy = false) : channel.inputView.operations = [] := by
  apply filter_eq_nil_iff.mpr
  intro activity mem queued
  simp only [busy, any_eq_false] at free
  exact free activity mem queued

theorem call_inputView {fact : ChannelFact} {operation : Operation} (inbound : fact.inbound = true)
    (other : waitingMessages [operation] = []) :
    (({ channel with inputAdmissionOpen := false }.record fact).enqueue operation).inputView =
      { channel.inputView with admission := false, history := fact :: channel.history } := by
  have waiting : waitingMessages (channel.operationTail ++ [operation]) =
      waitingMessages channel.operationTail := by
    simp only [waitingMessages, filterMap_append] at other ⊢
    rw [other, append_nil]
  simp only [inputView, history, record, enqueue, filter_cons, inbound, if_true, waiting]

theorem Step.input {after : ExperimentalWebSocketTakeoverChannel} {event : ChannelEvent}
    (step : Step config channel event after) (sound : channel.inputView.Sound config) :
    after.inputView.Sound config := by
  have moved : next config channel event = some after := step
  cases event with
  | start =>
      cases moved
      unfold start
      split
      · exact sound
      · rwa [runBoundUse, await_other_view rfl]
  | receiveText raw =>
      cases moved
      exact receiveText_input sound
  | pushFrame frame =>
      cases moved
      exact (pushFrame_framewise config channel frame).input sound
  | disconnect =>
      cases moved
      rw [disconnect, call_inputView rfl rfl]
      exact sound.ended _ rfl
  | revoke =>
      cases moved
      rw [revoke, call_inputView rfl rfl]
      exact sound.ended _ rfl
  | operation =>
      unfold next at moved
      dsimp only at moved
      split at moved
      · cases moved
      split at moved
      · cases moved
      · rename_i operation rest first free
        cases moved
        exact begin_input sound first (idle_of_not_busy (by simpa using free))
  | drain =>
      unfold next at moved
      dsimp only at moved
      split at moved
      · cases moved
        exact (flushPendingFrame_framewise config { channel with drainTimer := false }).input sound
      · cases moved
  | settle activity outcome =>
      unfold next at moved
      dsimp only at moved
      split at moved
      · rename_i mem
        cases moved
        exact settle_input sound mem
      · cases moved

theorem initial_input : initial.inputView.Sound config where
  counted := rfl
  measured := rfl
  fewEnough := by simp [inputView, initial]
  smallEnough := by simp [inputView, initial]
  alone := rfl
  gate := fun fact mem => by cases mem
  ordered := List.Pairwise.nil
  fresh := fun call raw mem => by cases mem
  received := fun message mem => by cases mem
  started := fun call input mem => by cases mem
  held := fun call input await same => by cases same
  serial := trivial

/-- How a channel handles what it receives. -/
structure Serialised (config : WebSocketChannelConfig)
    (channel : ExperimentalWebSocketTakeoverChannel) : Prop where
  serial : Each (Serial config) channel.history
  /-- The counters are those of the messages reserved and not yet taken. -/
  messages : channel.queuedInboundMessagesValue = (waitingMessages channel.operationTail).length
  bytes : channel.queuedInboundBytesValue = messageBytes (waitingMessages channel.operationTail)
  fewEnough : channel.queuedInboundMessagesValue ≤ config.maxQueuedInboundMessages
  smallEnough : channel.queuedInboundBytesValue ≤ config.maxQueuedInboundBytes

/-- Whatever is received and whenever the handler, the lease and the peer answer, inputs are started
one by one in the order of their messages, only when allowed, and never after an end. -/
theorem run_inputs_serialised (config : WebSocketChannelConfig)
    {channel : ExperimentalWebSocketTakeoverChannel} {events : List ChannelEvent}
    (run : Run (Step config) initial events channel) : Serialised config channel := by
  have stays {first : ExperimentalWebSocketTakeoverChannel} {event : ChannelEvent}
      {last : ExperimentalWebSocketTakeoverChannel} (step : Step config first event last)
      (sound : first.inputView.Sound config) : last.inputView.Sound config :=
    Step.input step sound
  have sound : channel.inputView.Sound config := run.invariant stays initial_input
  exact ⟨sound.serial, sound.counted, sound.measured, sound.fewEnough, sound.smallEnough⟩

/-- A text is received and applied, and the Done behind it is processed. -/
def sampleInputs : List ChannelEvent :=
  let text : Work := .input 0 (.text "a")
  [.receiveText "a", .receiveText "d", .operation, .settle ⟨text, .beginUse⟩ .fulfilled,
    .settle ⟨text, .operation⟩ .fulfilled, .settle ⟨text, .endUse none⟩ .fulfilled, .operation]

def sampleApplied : ExperimentalWebSocketTakeoverChannel :=
  (execute (next sampleConfig) initial sampleInputs).getD initial

theorem sampleApplied_serialised :
    Serialised sampleConfig sampleApplied ∧
      sampleApplied.history =
        [.doneProcessed, .inputSettled 0, .inputStarted 0 (.text "a"), .received 1 "d",
          .received 0 "a"] := by
  have run : Run (Step sampleConfig) initial sampleInputs sampleApplied :=
    (run_iff_execute _ _ _ _).mpr (by decide)
  exact ⟨run_inputs_serialised sampleConfig run, by decide⟩

end ExperimentalWebSocketTakeoverChannel

end ExecutionHandoff.WebSocket
