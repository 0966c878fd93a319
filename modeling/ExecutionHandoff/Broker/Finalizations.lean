import ExecutionHandoff.Broker.BrokerSteps

/-!
# Finalizations

What the code of `finalizeCompletion` can do from one await to the next: it
leaves the session manager alone, accepts no completion, and invokes no hook
but that of its own intervention and epoch.
-/

namespace ExecutionHandoff.Broker

open Library Takeover List

/-- The fact accepts no completion, and invokes no hook but that of the intervention and epoch. -/
def BrokerFact.Within (interventionId : String) (epoch : Int) : BrokerFact → Prop
  | .accepted .. => False
  | .hookInvoked _ owner turn => owner = interventionId ∧ turn = epoch
  | _ => True

namespace TakeoverBroker

variable {config : TakeoverBrokerConfig} {broker after : TakeoverBroker}

/-- The code of a finalization: it leaves the sessions alone, and invokes the hook for its own
intervention and epoch. -/
structure Finalizing (sessionId interventionId : String) (epoch : Int)
    (broker after : TakeoverBroker) : Prop where
  sessions : after.sessions = broker.sessions
  finalizations : ∀ id finalization, after.completionFinalizations.get? id = some finalization →
    (∃ earlier, broker.completionFinalizations.get? id = some earlier ∧
      earlier.interventionId = finalization.interventionId ∧
        earlier.epoch = finalization.epoch) ∨
    id = sessionId ∧ finalization.interventionId = interventionId ∧ finalization.epoch = epoch
  log : ∃ more, after.log = more ++ broker.log ∧
    ∀ fact ∈ more, fact.Within interventionId epoch

theorem Finalizing.trans {sessionId interventionId : String} {epoch : Int} {middle : TakeoverBroker}
    (left : Finalizing sessionId interventionId epoch broker middle)
    (right : Finalizing sessionId interventionId epoch middle after) :
    Finalizing sessionId interventionId epoch broker after := by
  obtain ⟨early, same, before⟩ := left.log
  obtain ⟨late, same', later⟩ := right.log
  constructor
  · exact right.sessions.trans left.sessions
  · intro id finalization running
    rcases right.finalizations id finalization running with ⟨earlier, found, owned, turn⟩ | own
    · rcases left.finalizations id earlier found with ⟨first, stored, owner, epoch'⟩ | own
      · exact .inl ⟨first, stored, owner.trans owned, epoch'.trans turn⟩
      · exact .inr ⟨own.1, owned.symm.trans own.2.1, turn.symm.trans own.2.2⟩
    · exact .inr own
  · refine ⟨late ++ early, ?_, ?_⟩
    · rw [same', same, append_assoc]
    · intro fact mem
      rcases mem_append.mp mem with here | there
      · exact later fact here
      · exact before fact there

theorem finalizing_record {sessionId interventionId : String} {epoch : Int} {fact : BrokerFact}
    (within : fact.Within interventionId epoch) :
    Finalizing sessionId interventionId epoch broker (broker.record fact) := by
  refine ⟨rfl, fun id finalization running => .inl ⟨finalization, running, rfl, rfl⟩,
    [fact], rfl, fun other mem => ?_⟩
  rw [mem_singleton.mp mem]
  exact within

theorem finalizing_settle {interventionId : String} {epoch : Int} (sessionId : String)
    (finalization : Finalization) (outcome : CompletionFinalizationOutcome) :
    Finalizing sessionId interventionId epoch broker
      (broker.settleFinalization sessionId finalization outcome) := by
  constructor
  · rfl
  · intro id running stored
    exact .inl ⟨running, OrderedMap.get?_of_get?_delete stored, rfl, rfl⟩
  · refine ⟨_, rfl, fun fact mem => ?_⟩
    obtain ⟨alreadyDone, _, rfl⟩ := mem_map.mp mem
    trivial

theorem finalizing_await (sessionId : String) (finalization : Finalization)
    (stage : FinalizationStage) {fact : BrokerFact}
    (within : fact.Within finalization.interventionId finalization.epoch) :
    Finalizing sessionId finalization.interventionId finalization.epoch broker
      (broker.await sessionId finalization stage fact) := by
  constructor
  · rfl
  · intro id running stored
    rw [TakeoverBroker.await, OrderedMap.get?_set] at stored
    split at stored
    · rename_i here
      cases stored
      exact .inr ⟨here, rfl, rfl⟩
    · exact .inl ⟨running, stored, rfl, rfl⟩
  · refine ⟨[fact], rfl, fun other mem => ?_⟩
    rw [mem_singleton.mp mem]
    exact within

theorem finalizing_forget {interventionId : String} {epoch : Int} (sessionId : String) :
    Finalizing sessionId interventionId epoch broker (broker.forgetSession sessionId) :=
  ⟨rfl, fun _ finalization running => .inl ⟨finalization, running, rfl, rfl⟩, [], rfl,
    fun _ mem => by cases mem⟩

theorem finalizing_deliver (broker : TakeoverBroker) (sessionId : String)
    (finalization : Finalization) :
    Finalizing sessionId finalization.interventionId finalization.epoch broker
      (broker.deliver sessionId finalization) := by
  unfold deliver
  dsimp only
  split
  · exact (finalizing_forget sessionId).trans (finalizing_settle sessionId finalization _)
  · apply (finalizing_forget sessionId).trans
    exact finalizing_await sessionId finalization _ ⟨rfl, rfl⟩

theorem finalizing_finalizeWebRtc (broker : TakeoverBroker) (sessionId : String)
    (finalization : Finalization) (wasWebRtc : Bool) :
    Finalizing sessionId finalization.interventionId finalization.epoch broker
      (broker.finalizeWebRtc sessionId finalization wasWebRtc) := by
  unfold finalizeWebRtc
  split
  · exact finalizing_await sessionId finalization _ trivial
  · exact finalizing_deliver broker sessionId finalization

theorem finalizing_finalizeCompletion (broker : TakeoverBroker) (sessionId : String)
    (finalization : Finalization) (wasNative wasWebRtc : Bool) :
    Finalizing sessionId finalization.interventionId finalization.epoch broker
      (broker.finalizeCompletion sessionId finalization wasNative wasWebRtc) := by
  unfold finalizeCompletion
  split
  · exact finalizing_await sessionId finalization _ trivial
  · exact finalizing_finalizeWebRtc broker sessionId finalization wasWebRtc

theorem finalizing_join (broker : TakeoverBroker) (completion : TakeoverCompletionResult)
    (sessionId : String) (wasNative wasWebRtc : Bool) :
    Finalizing sessionId completion.interventionId completion.epoch broker
      (broker.joinFinalization completion sessionId wasNative wasWebRtc) := by
  unfold joinFinalization
  split
  · rename_i running stored
    refine ⟨rfl, fun id finalization found => ?_, [], rfl, fun _ mem => by cases mem⟩
    rw [OrderedMap.get?_set] at found
    split at found
    · rename_i here
      cases found
      exact .inl ⟨running, here ▸ stored, rfl, rfl⟩
    · exact .inl ⟨finalization, found, rfl, rfl⟩
  · exact finalizing_finalizeCompletion broker sessionId
      ⟨completion.interventionId, completion.epoch, .delivering, [completion.alreadyCompleted]⟩
      wasNative wasWebRtc

theorem finalizing_settleRevoke {runtime : RuntimeKind} {sessionId : String} {succeeded : Bool}
    (settled : broker.settleRevoke runtime sessionId succeeded = some after) :
    ∃ finalization, broker.completionFinalizations.get? sessionId = some finalization ∧
      Finalizing sessionId finalization.interventionId finalization.epoch broker after := by
  unfold settleRevoke at settled
  split at settled
  · cases settled
  · rename_i finalization running
    refine ⟨finalization, running, ?_⟩
    split at settled
    · cases settled
      split
      · have revoked : Finalizing sessionId finalization.interventionId finalization.epoch broker
            (broker.record (.revoked .native sessionId)) := finalizing_record trivial
        exact revoked.trans (finalizing_finalizeWebRtc _ _ _ _)
      · exact finalizing_settle sessionId finalization _
    · cases settled
      split
      · have revoked : Finalizing sessionId finalization.interventionId finalization.epoch broker
            (broker.record (.revoked .webRtc sessionId)) := finalizing_record trivial
        exact revoked.trans (finalizing_deliver _ _ _)
      · exact finalizing_settle sessionId finalization _
    · cases settled

theorem finalizing_settleHook {sessionId : String} {succeeded : Bool}
    (settled : broker.settleHook sessionId succeeded = some after) :
    ∃ finalization, broker.completionFinalizations.get? sessionId = some finalization ∧
      Finalizing sessionId finalization.interventionId finalization.epoch broker after := by
  unfold settleHook at settled
  split at settled
  · cases settled
  · rename_i finalization running
    refine ⟨finalization, running, ?_⟩
    split at settled
    · cases settled
    · split at settled
      · cases settled
        have returned : Finalizing sessionId finalization.interventionId finalization.epoch broker
            ({ broker with
              completionDelivered := insert sessionId broker.completionDelivered }.record
                (.hookReturned sessionId true)) :=
          ⟨rfl, fun _ found stored => .inl ⟨found, stored, rfl, rfl⟩,
            [.hookReturned sessionId true], rfl, fun fact mem =>
              mem_singleton.mp mem ▸ trivial⟩
        exact returned.trans (finalizing_settle sessionId finalization _)
      · cases settled
        have returned : Finalizing sessionId finalization.interventionId finalization.epoch broker
            (broker.record (.hookReturned sessionId false)) := finalizing_record trivial
        exact returned.trans (finalizing_settle sessionId finalization _)

end TakeoverBroker

end ExecutionHandoff.Broker
