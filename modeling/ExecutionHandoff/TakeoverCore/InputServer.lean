import ExecutionHandoff.TakeoverCore.InputSequenceGate
import ExecutionHandoff.TakeoverCore.SecureDatagrams

/-!
# The input server of the host

`SecureInputServer.run`, which injects what the clients send.  The network
brings datagrams in any order and any number of times; one that does not open
changes nothing and is no step.
-/

namespace ExecutionHandoff.TakeoverCore

open Library InputSequenceGate List

/-- The local variables of `run`, whether it goes on, the events that were injected and the
acknowledgements that were made, oldest first.  `injectedCriticalSet` has the members of the
order. -/
structure SecureInputServer where
  running : Bool
  gate : InputSequenceGate
  feedbackSequence : UInt64
  injectedCriticalOrder : List UInt64
  injected : List InputEvent
  acks : List FeedbackMessage
  deriving DecidableEq

inductive InputServerEvent where
  /-- A datagram opens.  The lease holds before the injection, and the injection succeeds. -/
  | datagram (event : InputEvent) (active injects : Bool) (monotonicNanos : UInt64)
  | expires
  deriving DecidableEq

namespace SecureInputServer

def initial : SecureInputServer := ⟨true, .initial, 0, [], [], []⟩

variable (server : SecureInputServer)

def rememberInjected (sequence : UInt64) : SecureInputServer :=
  if sequence ∈ server.injectedCriticalOrder then server
  else
    let order := server.injectedCriticalOrder ++ [sequence]
    { server with injectedCriticalOrder := if 64 < order.length then order.tail else order }

/-- The acknowledgement is made; whether sending it throws makes no difference here. -/
def sendAck (reference monotonicNanos : UInt64) : SecureInputServer :=
  { server with
    feedbackSequence := server.feedbackSequence + 1
    acks := server.acks ++ [⟨.criticalInputAck, server.feedbackSequence, reference, monotonicNanos⟩] }

def receive (event : InputEvent) (active injects : Bool) (monotonicNanos : UInt64) :
    SecureInputServer :=
  let (acceptance, gate) := accept event server.gate
  let server := { server with gate }
  if acceptance ≠ .accepted then
    if event.lane = .critical ∧ event.sequence ∈ server.injectedCriticalOrder then
      server.sendAck event.sequence monotonicNanos
    else server
  else if active = false then { server with running := false }
  else if injects = false then server
  else
    let server := { server with injected := server.injected ++ [event] }
    if event.lane = .critical then
      (server.rememberInjected event.sequence).sendAck event.sequence monotonicNanos
    else server

def next : InputServerEvent → Option SecureInputServer
  | .datagram event active injects monotonicNanos =>
      if server.running then some (server.receive event active injects monotonicNanos) else none
  | .expires => some { server with running := false }

abbrev Step : SecureInputServer → InputServerEvent → SecureInputServer → Prop := StepOf next

/-- The sequences that were injected on a lane. -/
def injectedOn (lane : InputLane) : List UInt64 :=
  (server.injected.filter fun event => event.lane = lane).map InputEvent.sequence

/-- What is promised of the injections and the acknowledgements. -/
structure Exact : Prop where
  once : (server.injectedOn .critical).Nodup
  rising : (server.injectedOn .realtime).Pairwise (· < ·)
  /-- The last 64 critical events can be acknowledged again. -/
  remembered : server.injectedCriticalOrder =
    (server.injectedOn .critical).drop ((server.injectedOn .critical).length - 64)
  genuine : ∀ ack ∈ server.acks,
    ack.kind = .criticalInputAck ∧ ack.reference ∈ server.injectedOn .critical
  answered : ∀ sequence ∈ server.injectedOn .critical, ∃ ack ∈ server.acks, ack.reference = sequence
  numbered : server.acks.map FeedbackMessage.sequence =
    (List.range server.acks.length).map UInt64.ofNat

variable {server} {after : SecureInputServer}

theorem injectedOn_append (lane : InputLane) (event : InputEvent) :
    { server with injected := server.injected ++ [event] }.injectedOn lane =
      server.injectedOn lane ++ if event.lane = lane then [event.sequence] else [] := by
  unfold injectedOn
  rw [filter_append, map_append, filter_singleton]
  split <;> simp_all

theorem rememberInjected_injectedOn (sequence : UInt64) (lane : InputLane) :
    (server.rememberInjected sequence).injectedOn lane = server.injectedOn lane := by
  unfold rememberInjected
  split <;> rfl

/-! ## The gate -/

/-- What was injected is among what the gate let through, each critical sequence once and the
realtime ones in order. -/
def Gated (gate : InputSequenceGate) (injectedOn : InputLane → List UInt64) : Prop :=
  ∃ calls, Remembers calls gate ∧ (acceptedSequences .critical calls).Nodup ∧
    (acceptedSequences .realtime calls).Pairwise (· < ·) ∧
    ∀ lane, (injectedOn lane).Sublist (acceptedSequences lane calls)

/-- The gate judges an event, which may then be injected if it was accepted. -/
theorem Gated.accept {gate : InputSequenceGate} {injectedOn injectedOn' : InputLane → List UInt64}
    (gated : Gated gate injectedOn) (event : InputEvent)
    (injected : ∀ lane, (injectedOn' lane).Sublist (injectedOn lane ++
      if event.lane = lane ∧ (accept event gate).1 = .accepted then [event.sequence] else [])) :
    Gated (accept event gate).2 injectedOn' := by
  obtain ⟨calls, remembers, once, rising, within⟩ := gated
  refine ⟨_, remembers.accept event, ?_, ?_, fun lane => ?_⟩ <;> rw [acceptedSequences_append]
  · split
    · rename_i taken
      have fresh := ((remembers.accept_iff event).mp taken.2).2
      rw [taken.1] at fresh
      exact nodup_append.mpr ⟨once, pairwise_singleton _ _, fun earlier mem last same equal =>
        fresh.1 (mem_singleton.mp same ▸ equal ▸ mem)⟩
    · rwa [append_nil]
  · split
    · rename_i taken
      have later := ((remembers.accept_iff event).mp taken.2).2
      rw [taken.1] at later
      exact pairwise_append.mpr ⟨rising, pairwise_singleton _ _, fun earlier mem last same =>
        mem_singleton.mp same ▸ later earlier mem⟩
    · rwa [append_nil]
  · exact (injected lane).trans ((within lane).append (.refl _))

/-- The last items of a list, one more of them. -/
theorem drop_concat {α : Type*} (items : List α) (item : α) (kept : Nat) :
    (let order := items.drop (items.length - kept) ++ [item]
      if kept < order.length then order.tail else order) =
      (items ++ [item]).drop ((items ++ [item]).length - kept) := by
  have front : (items ++ [item]).drop (items.length - kept) = _ :=
    drop_append_of_le_length (Nat.sub_le _ _)
  dsimp only
  rw [← front, ← drop_one, drop_drop, length_drop, length_append]
  split
  · congr 1
    simp only [length_singleton] at *
    omega
  · congr 1
    simp only [length_singleton] at *
    omega

/-- What holds while one injected sequence may still be owed its acknowledgement. -/
structure Sound (owed : Option UInt64) (server : SecureInputServer) : Prop where
  gated : Gated server.gate server.injectedOn
  remembered : server.injectedCriticalOrder =
    (server.injectedOn .critical).drop ((server.injectedOn .critical).length - 64)
  genuine : ∀ ack ∈ server.acks,
    ack.kind = .criticalInputAck ∧ ack.reference ∈ server.injectedOn .critical
  answered : ∀ sequence ∈ server.injectedOn .critical,
    owed = some sequence ∨ ∃ ack ∈ server.acks, ack.reference = sequence
  numbered : server.acks.map FeedbackMessage.sequence =
    (List.range server.acks.length).map UInt64.ofNat
  counted : server.feedbackSequence = .ofNat server.acks.length

theorem initial_sound : Sound none initial where
  gated := ⟨[], remembers_initial, .nil, .nil, fun _ => .refl _⟩
  remembered := rfl
  genuine := fun _ no => by cases no
  answered := fun _ no => by cases no
  numbered := rfl
  counted := rfl

theorem Sound.exact (sound : Sound none server) : Exact server where
  once := have ⟨_, _, once, _, within⟩ := sound.gated; once.sublist (within _)
  rising := have ⟨_, _, _, rising, within⟩ := sound.gated; rising.sublist (within _)
  remembered := sound.remembered
  genuine := sound.genuine
  answered := fun sequence mem => (sound.answered sequence mem).resolve_left nofun
  numbered := sound.numbered

theorem Sound.sendAck {owed : Option UInt64} (sound : Sound owed server) {reference : UInt64}
    (injected : reference ∈ server.injectedOn .critical)
    (owes : owed = none ∨ owed = some reference) (monotonicNanos : UInt64) :
    Sound none (server.sendAck reference monotonicNanos) where
  gated := sound.gated
  remembered := sound.remembered
  genuine := forall_mem_append.mpr
    ⟨sound.genuine, forall_mem_singleton.mpr ⟨rfl, injected⟩⟩
  answered := by
    intro sequence mem
    have latest : ∃ ack ∈ (server.sendAck reference monotonicNanos).acks,
        ack.reference = reference := ⟨_, mem_append_right _ (.head _), rfl⟩
    rcases sound.answered sequence mem with same | ⟨ack, among, same⟩
    · rcases owes with none' | some'
      · cases same.symm.trans none'
      · cases same.symm.trans some'
        exact .inr latest
    · exact .inr ⟨ack, mem_append_left _ among, same⟩
  numbered := by
    unfold SecureInputServer.sendAck
    rw [map_append, sound.numbered, length_append, length_singleton,
      range_succ, map_append, sound.counted]
    rfl
  counted := by
    unfold SecureInputServer.sendAck
    rw [length_append, length_singleton, UInt64.ofNat_add, sound.counted]
    rfl

/-- An event that the gate accepts is injected. -/
theorem Sound.inject (sound : Sound none server) {event : InputEvent}
    (accepted : (accept event server.gate).1 = .accepted) :
    let after : SecureInputServer :=
      { server with gate := (accept event server.gate).2, injected := server.injected ++ [event] }
    if event.lane = .critical then Sound (some event.sequence) (after.rememberInjected event.sequence)
    else Sound none after := by
  intro after
  have grown lane : after.injectedOn lane = _ := injectedOn_append lane event
  have gated : Gated after.gate after.injectedOn := by
    refine sound.gated.accept event fun lane => ?_
    rw [grown]
    simp only [accepted, and_true]
    exact .refl _
  have mono : ∀ lane, server.injectedOn lane ⊆ after.injectedOn lane :=
    fun lane => grown lane ▸ subset_append_left _ _
  have genuine ack (mem : ack ∈ server.acks) := And.imp_right (@mono _ _) (sound.genuine ack mem)
  split
  · rename_i critical
    have same : after.injectedOn .critical = server.injectedOn .critical ++ [event.sequence] := by
      rw [grown, if_pos critical]
    have fresh : event.sequence ∉ server.injectedCriticalOrder := by
      obtain ⟨_, _, once, _, within⟩ := gated
      have once := once.sublist (within .critical)
      rw [same, nodup_append] at once
      rw [sound.remembered]
      exact fun mem => once.2.2 _ (mem_of_mem_drop mem) _ (.head _) rfl
    unfold rememberInjected
    rw [if_neg fresh]
    refine ⟨gated, ?_, genuine, fun sequence mem => ?_, sound.numbered, sound.counted⟩
    · change (let order := server.injectedCriticalOrder ++ [event.sequence]; _) = _
      rw [sound.remembered]
      exact (drop_concat _ _ _).trans (same ▸ rfl)
    · rcases mem_append.mp (same ▸ mem) with before | new
      · exact .inr ((sound.answered sequence before).resolve_left nofun)
      · exact .inl (congrArg some (mem_singleton.mp new).symm)
  · rename_i realtime
    have same : after.injectedOn .critical = server.injectedOn .critical := by
      rw [grown, if_neg realtime, append_nil]
    exact ⟨gated, same.symm ▸ sound.remembered, genuine, same.symm ▸ sound.answered, sound.numbered,
      sound.counted⟩

theorem step_sound {event : InputServerEvent} (step : Step server event after)
    (sound : Sound none server) : Sound none after := by
  cases event with
  | expires =>
      cases step
      exact ⟨sound.gated, sound.remembered, sound.genuine, sound.answered, sound.numbered,
        sound.counted⟩
  | datagram event active injects monotonicNanos =>
      change (if _ then _ else _) = some after at step
      split at step
      · cases step
        have judged : Sound none { server with gate := (accept event server.gate).2 } :=
          ⟨sound.gated.accept event fun lane => sublist_append_left _ _, sound.remembered,
            sound.genuine, sound.answered, sound.numbered, sound.counted⟩
        unfold receive
        dsimp only
        split
        · split
          · rename_i known
            refine judged.sendAck ?_ (.inl rfl) _
            exact mem_of_mem_drop (sound.remembered ▸ known.2)
          · exact judged
        · rename_i accepted
          have injected := sound.inject (not_not.mp accepted)
          split
          · exact ⟨judged.gated, sound.remembered, sound.genuine, sound.answered, sound.numbered,
              sound.counted⟩
          · split
            · exact judged
            · split
              · rename_i critical
                rw [if_pos critical] at injected
                refine injected.sendAck ?_ (.inr rfl) _
                have among : event.sequence ∈
                    { server with injected := server.injected ++ [event] }.injectedOn .critical := by
                  rw [injectedOn_append, if_pos critical]
                  exact mem_append_right _ (.head _)
                rw [rememberInjected_injectedOn]
                exact among
              · rename_i realtime
                rwa [if_neg realtime] at injected
      · cases step

/-- Whatever the network does, each critical event is injected at most once and the realtime ones in
order; what is acknowledged was injected, what was injected is acknowledged, and the
acknowledgements are numbered through. -/
theorem run_injects {events : List InputServerEvent} (run : Run Step initial events server) :
    Exact server :=
  (run.invariant step_sound initial_sound).exact

def sampleKey : InputEvent := ⟨.critical, .key, 0, 0, 0, 0, 1, [], by decide⟩

def sampleRetry : List InputServerEvent :=
  [.datagram sampleKey true true 1, .datagram sampleKey true true 2]

/-- A retry is acknowledged again and not injected again. -/
theorem sampleRetry_exact : ∃ last, execute next initial sampleRetry = some last ∧
    last.injected = [sampleKey] ∧ last.acks.length = 2 ∧ Exact last :=
  ⟨_, rfl, by decide, by decide, run_injects ((run_iff_execute next initial _ sampleRetry).mpr rfl)⟩

end SecureInputServer

end ExecutionHandoff.TakeoverCore
