import ExecutionHandoff.Broker.CompletionFence
import ExecutionHandoff.Broker.CompletionOrder

/-!
# Delivering a completion

The code of a finalization from one await to the next, at its own session and
at the others.  At its own session it starts with the first runtime that is
still owed a revocation, and reaches the hook when none is.
-/

namespace ExecutionHandoff.Broker

open Library List Bool
open OrderedMap (get?_set_ne get?_set_self get?_delete_ne get?_delete_self)
open Takeover

namespace TakeoverBroker

variable {config : TakeoverBrokerConfig} {broker after : TakeoverBroker} {id : String}

/-! ## Other sessions -/

/-- The step is about another session. -/
structure Elsewhere (id : String) (broker after : TakeoverBroker) : Prop where
  sessions : after.sessions = broker.sessions
  markers : ∀ runtime, after.marker runtime id = broker.marker runtime id
  finalization : after.completionFinalizations.get? id = broker.completionFinalizations.get? id
  delivered : id ∈ after.completionDelivered ↔ id ∈ broker.completionDelivered
  log : ∃ more, after.log = more ++ broker.log ∧ ∀ fact ∈ more, fact.aside id = true

theorem Elsewhere.trans {middle : TakeoverBroker} (left : Elsewhere id broker middle)
    (right : Elsewhere id middle after) : Elsewhere id broker after := by
  obtain ⟨early, same, before⟩ := left.log
  obtain ⟨late, same', later⟩ := right.log
  constructor
  · exact right.sessions.trans left.sessions
  · exact fun runtime => (right.markers runtime).trans (left.markers runtime)
  · exact right.finalization.trans left.finalization
  · exact right.delivered.trans left.delivered
  · refine ⟨late ++ early, ?_, ?_⟩
    · rw [same', same, append_assoc]
    · intro fact mem
      rcases mem_append.mp mem with here | there
      · exact later fact here
      · exact before fact there

variable {fact : BrokerFact} {sessionId : String} {finalization : Finalization}
  {runtime : RuntimeKind}

theorem elsewhere_record (aside : fact.aside id = true) :
    Elsewhere id broker (broker.record fact) := by
  refine ⟨rfl, fun _ => rfl, rfl, Iff.rfl, [fact], rfl, fun other mem => ?_⟩
  rw [mem_singleton.mp mem]
  exact aside

theorem answered_aside {outcome : CompletionFinalizationOutcome}
    (mem : fact ∈ finalization.waiting.map fun alreadyDone =>
      .answered sessionId (outcome.reply alreadyDone)) (id : String) : fact.aside id = true := by
  obtain ⟨alreadyDone, _, rfl⟩ := mem_map.mp mem
  rfl

theorem elsewhere_settle (ne : id ≠ sessionId) (finalization : Finalization)
    (outcome : CompletionFinalizationOutcome) :
    Elsewhere id broker (broker.settleFinalization sessionId finalization outcome) :=
  ⟨rfl, fun _ => rfl, get?_delete_ne _ ne, Iff.rfl, _, rfl, fun _ mem =>
    answered_aside mem id⟩

theorem elsewhere_await (ne : id ≠ sessionId) (finalization : Finalization)
    (stage : FinalizationStage) (aside : fact.aside id = true) :
    Elsewhere id broker (broker.await sessionId finalization stage fact) := by
  refine ⟨rfl, fun _ => rfl, get?_set_ne _ _ ne, Iff.rfl, [fact], rfl,
    fun other mem => ?_⟩
  rw [mem_singleton.mp mem]
  exact aside

theorem elsewhere_forget (ne : id ≠ sessionId) :
    Elsewhere id broker (broker.forgetSession sessionId) := by
  refine ⟨rfl, fun runtime => ?_, rfl, Iff.rfl, [], rfl, by simp⟩
  cases runtime with
  | native => exact congrArg Option.isSome (get?_delete_ne _ ne)
  | webRtc => exact congrArg Option.isSome (get?_delete_ne _ ne)

theorem elsewhere_deliver (ne : id ≠ sessionId) (finalization : Finalization) :
    Elsewhere id broker (broker.deliver sessionId finalization) := by
  unfold deliver
  dsimp only
  split
  · exact (elsewhere_forget ne).trans (elsewhere_settle ne finalization _)
  · exact (elsewhere_forget ne).trans (elsewhere_await ne finalization _ rfl)

theorem elsewhere_finalizeWebRtc (ne : id ≠ sessionId)
    (finalization : Finalization) (wasWebRtc : Bool) :
    Elsewhere id broker (broker.finalizeWebRtc sessionId finalization wasWebRtc) := by
  unfold finalizeWebRtc
  split
  · exact elsewhere_await ne finalization _ rfl
  · exact elsewhere_deliver ne finalization

theorem elsewhere_join (ne : id ≠ sessionId)
    (completion : TakeoverCompletionResult) (wasNative wasWebRtc : Bool) :
    Elsewhere id broker (broker.joinFinalization completion sessionId wasNative wasWebRtc) := by
  unfold joinFinalization
  split
  · exact ⟨rfl, fun _ => rfl, get?_set_ne _ _ ne, Iff.rfl, [], rfl, by simp⟩
  · unfold finalizeCompletion
    split
    · exact elsewhere_await ne _ _ rfl
    · exact elsewhere_finalizeWebRtc ne _ _

theorem elsewhere_settleRevoke {succeeded : Bool}
    (settled : broker.settleRevoke runtime sessionId succeeded = some after) (ne : id ≠ sessionId) :
    Elsewhere id broker after := by
  have revoked (runtime : RuntimeKind) :
      Elsewhere id broker (broker.record (.revoked runtime sessionId)) :=
    elsewhere_record (bne_iff_ne.mpr ne.symm)
  unfold settleRevoke at settled
  split at settled
  · cases settled
  · split at settled
    · cases settled
      split
      · exact (revoked .native).trans (elsewhere_finalizeWebRtc ne _ _)
      · exact elsewhere_settle ne _ _
    · cases settled
      split
      · exact (revoked .webRtc).trans (elsewhere_deliver ne _)
      · exact elsewhere_settle ne _ _
    · cases settled

theorem elsewhere_settleHook {succeeded : Bool}
    (settled : broker.settleHook sessionId succeeded = some after) (ne : id ≠ sessionId) :
    Elsewhere id broker after := by
  unfold settleHook at settled
  split at settled
  · cases settled
  · rename_i finalization _
    split at settled
    · cases settled
    · split at settled
      · cases settled
        have returned : Elsewhere id broker ({ broker with
            completionDelivered := insert sessionId broker.completionDelivered }.record
              (.hookReturned sessionId true)) := by
          refine ⟨rfl, fun _ => rfl, rfl, ?_, [.hookReturned sessionId true], rfl, ?_⟩
          · exact Finset.mem_insert.trans (or_iff_right ne)
          · intro fact mem
            rw [mem_singleton.mp mem]
            exact bne_iff_ne.mpr ne.symm
        exact returned.trans (elsewhere_settle ne finalization _)
      · cases settled
        exact (elsewhere_record rfl).trans (elsewhere_settle ne finalization _)

theorem OrderedAt.elsewhere (ordered : OrderedAt config broker id) (sound : Sound config broker)
    (elsewhere : Elsewhere id broker after) : OrderedAt config after id := by
  apply ordered.transfer sound _ elsewhere.log elsewhere.finalization
  · constructor
    · rw [elsewhere.markers, elsewhere.markers]
      exact fun before => before
    · intro _ runtime marked
      rw [← elsewhere.markers]
      exact marked
    · exact elsewhere.delivered.mp
    · exact fun _ mem => .inl (elsewhere.delivered.mpr mem)
  · rw [elsewhere.sessions]
    exact .refl _

/-! ## The session of the finalization -/

/-- A fact that owes nothing, recorded beside a change that no marker sees. -/
theorem Remembers.records (remembers : Remembers config broker id)
    (sessions : after.sessions = broker.sessions) (fewer : FewerRoutes broker after)
    (delivered : after.completionDelivered = broker.completionDelivered)
    (log : ∃ more, after.log = more ++ broker.log ∧ ∀ fact ∈ more, fact.aside id = true) :
    Remembers config after id :=
  remembers.transfer (sessions ▸ .refl _) log (fewer.routing delivered id)

theorem ordered_await (remembers : Remembers config broker id) (finalization : Finalization)
    {stage : FinalizationStage} (running : Running broker id stage)
    (aside : fact.aside id = true) :
    OrderedAt config (broker.await id finalization stage fact) id := by
  have log : ∃ more, (broker.await id finalization stage fact).log = more ++ broker.log ∧
      ∀ other ∈ more, other.aside id = true := by
    refine ⟨[fact], rfl, fun other mem => ?_⟩
    rw [mem_singleton.mp mem]
    exact aside
  constructor
  · exact remembers.records rfl { FewerRoutes.refl broker with } rfl log
  · intro current found
    rw [await, get?_set_self] at found
    cases found
    exact running.transfer log fun _ marked => marked

theorem ordered_settle (remembers : Remembers config broker id) (finalization : Finalization)
    (outcome : CompletionFinalizationOutcome) :
    OrderedAt config (broker.settleFinalization id finalization outcome) id := by
  constructor
  · exact remembers.records rfl { FewerRoutes.refl broker with } rfl
      ⟨_, rfl, fun _ mem => answered_aside mem id⟩
  · intro current found
    rw [settleFinalization, get?_delete_self] at found
    cases found

/-- A finalization that failed answers with an error, whatever the requests were told before. -/
theorem turns_failed (turns : Each CompletionTurn broker.log)
    (finalization : Finalization) {outcome : CompletionFinalizationOutcome}
    (failed : outcome ≠ .completed) :
    Each CompletionTurn (broker.settleFinalization sessionId finalization outcome).log := by
  apply turns.append
  intro fact mem past
  obtain ⟨alreadyDone, _, rfl⟩ := mem_map.mp mem
  cases outcome with
  | completed => exact absurd rfl failed
  | runtimeRevokeFailed | completionHandlerFailed => trivial

/-- Requests are answered done when the hook has returned and no runtime is owed a revocation. -/
theorem turns_completed (turns : Each CompletionTurn broker.log) (finalization : Finalization)
    (returned : .hookReturned id true ∈ broker.log)
    (clear : ∀ runtime, owed broker.log runtime id = false) :
    Each CompletionTurn (broker.settleFinalization id finalization .completed).log := by
  apply turns.append_within
  intro fact mem front among
  obtain ⟨alreadyDone, _, rfl⟩ := mem_map.mp mem
  have aside : ∀ other ∈ front, other.aside id = true :=
    fun other inside => answered_aside (among other inside) id
  constructor
  · exact (returned_aside aside).mpr returned
  · intro runtime
    rw [owed_aside aside]
    exact clear runtime

theorem unmarked_forget (broker : TakeoverBroker) (id : String) (runtime : RuntimeKind) :
    (broker.forgetSession id).marker runtime id = false := by
  cases runtime with
  | native => exact congrArg Option.isSome (get?_delete_self _ _)
  | webRtc => exact congrArg Option.isSome (get?_delete_self _ _)

/-- What a finalization knows of its session once no runtime is owed a revocation. -/
structure Deliverable (broker : TakeoverBroker) (id : String) : Prop where
  accepted : broker.Accepted id
  clear : ∀ runtime, owed broker.log runtime id = false
  delivered : id ∈ broker.completionDelivered ↔ .hookReturned id true ∈ broker.log

theorem Deliverable.forget (deliverable : Deliverable broker id) :
    Remembers config (broker.forgetSession id) id := by
  have unmarked := unmarked_forget broker id
  constructor
  · exact fun _ => unmarked .webRtc
  · intro _ runtime marked
    rw [unmarked] at marked
    cases marked
  · exact fun _ _ => ⟨deliverable.accepted, unmarked⟩
  · exact deliverable.delivered.mp
  · exact fun mem => ⟨deliverable.accepted, unmarked, deliverable.clear,
      .inl (deliverable.delivered.mpr mem)⟩

theorem ordered_deliver (deliverable : Deliverable broker id) (finalization : Finalization) :
    OrderedAt config (broker.deliver id finalization) id := by
  have forgot : Remembers config (broker.forgetSession id) id := deliverable.forget
  unfold deliver
  dsimp only
  split
  · exact ordered_settle forgot finalization _
  · rename_i undelivered
    apply ordered_await forgot finalization _ rfl
    constructor
    · exact fun returned => undelivered (deliverable.delivered.mpr returned)
    · exact fun same => by cases same
    · intro runtime left
      exact absurd ((deliverable.clear runtime).symm.trans left) Bool.false_ne_true
    · intro runtime marked
      rw [unmarked_forget] at marked
      cases marked

theorem turns_deliver (deliverable : Deliverable broker id) (finalization : Finalization)
    (turns : Each CompletionTurn broker.log) :
    Each CompletionTurn (broker.deliver id finalization).log := by
  unfold deliver
  dsimp only
  split
  · rename_i delivered
    have forgot : Each CompletionTurn (broker.forgetSession id).log := turns
    exact turns_completed forgot finalization (deliverable.delivered.mp delivered)
      deliverable.clear
  · exact .cons deliverable.clear turns

/-- What a finalization knows of its session when it starts. -/
structure Startable (config : TakeoverBrokerConfig) (broker : TakeoverBroker) (id : String) :
    Prop where
  remembers : Remembers config broker id
  accepted : broker.Accepted id
  kept : .hookReturned id true ∈ broker.log → id ∈ broker.completionDelivered
  found : ∀ runtime, owed broker.log runtime id = true → broker.marker runtime id = true

theorem Startable.owed_iff (startable : Startable config broker id) (runtime : RuntimeKind) :
    owed broker.log runtime id = true ↔ broker.marker runtime id = true := by
  refine ⟨startable.found runtime, fun marked => ?_⟩
  have noted := startable.remembers.noted startable.accepted runtime marked
  have unrevoked : .revoked runtime id ∉ broker.log := by
    intro revoked
    have none := (startable.remembers.revoked runtime revoked).2 runtime
    rw [marked] at none
    cases none
  rw [owed, noted, decide_eq_true unrevoked]
  rfl

/-- While a runtime is marked, the hook has not returned. -/
theorem Startable.first (startable : Startable config broker id)
    (marked : broker.marker runtime id = true) : .hookReturned id true ∉ broker.log := by
  intro returned
  have none := (startable.remembers.returned returned).2.1 runtime
  rw [marked] at none
  cases none

theorem Startable.deliverable (startable : Startable config broker id)
    (none : ∀ runtime, broker.marker runtime id = false) : Deliverable broker id := by
  refine ⟨startable.accepted, fun runtime => ?_, startable.remembers.delivered, startable.kept⟩
  apply eq_false_iff.mpr
  intro left
  have marked := startable.found runtime left
  rw [none] at marked
  cases marked

/-- A finalization that stands at the revocation of the only marked runtime. -/
theorem Startable.running (startable : Startable config broker id)
    {stage : FinalizationStage} (marked : broker.marker runtime id = true)
    (single : stage ≠ .revokingNative true)
    (covers : ∀ other, broker.marker other id = true → stage.covers other = true) :
    Running broker id stage where
  first := startable.first marked
  single := single
  owed := fun other left => covers other (startable.found other left)
  marked := covers

/-- The first thing that a finalization does, given what was recorded before it. -/
inductive Attempt (past : List BrokerFact) (id interventionId : String) (epoch : Int)
    (alreadyDone : Bool) : BrokerFact → Prop where
  | revokes {runtime : RuntimeKind} (left : owed past runtime id = true) :
      Attempt past id interventionId epoch alreadyDone (.revoking runtime id)
  | invokes (clear : ∀ runtime, owed past runtime id = false)
      (first : .hookReturned id true ∉ past) :
      Attempt past id interventionId epoch alreadyDone (.hookInvoked id interventionId epoch)
  | answers (clear : ∀ runtime, owed past runtime id = false)
      (returned : .hookReturned id true ∈ past) :
      Attempt past id interventionId epoch alreadyDone (.answered id (.done alreadyDone))

theorem join_shares (found : broker.completionFinalizations.get? id = some finalization)
    (completion : TakeoverCompletionResult) (wasNative wasWebRtc : Bool) :
    (broker.joinFinalization completion id wasNative wasWebRtc).log = broker.log := by
  unfold joinFinalization
  rw [found]

theorem join_starts (idle : broker.completionFinalizations.get? id = none)
    {completion : TakeoverCompletionResult} (wasNative wasWebRtc : Bool) :
    broker.joinFinalization completion id wasNative wasWebRtc =
      broker.finalizeCompletion id
        ⟨completion.interventionId, completion.epoch, .delivering, [completion.alreadyCompleted]⟩
        wasNative wasWebRtc := by
  unfold joinFinalization
  rw [idle]

/-- A finalization that starts takes up what has not succeeded yet. -/
theorem join_attempts (startable : Startable config broker id)
    (idle : broker.completionFinalizations.get? id = none)
    (turns : Each CompletionTurn broker.log) (completion : TakeoverCompletionResult) :
    (∃ fact, (broker.joinFinalization completion id (broker.marker .native id)
        (broker.marker .webRtc id)).log = fact :: broker.log ∧
      Attempt broker.log id completion.interventionId completion.epoch completion.alreadyCompleted
        fact) ∧
    OrderedAt config (broker.joinFinalization completion id (broker.marker .native id)
      (broker.marker .webRtc id)) id ∧
    Each CompletionTurn (broker.joinFinalization completion id (broker.marker .native id)
      (broker.marker .webRtc id)).log := by
  have remembers := startable.remembers
  rw [join_starts idle]
  unfold finalizeCompletion
  cases native : broker.marker .native id with
  | true =>
      have unrouted := remembers.exclusive native
      rw [unrouted, if_pos rfl]
      refine ⟨⟨_, rfl, .revokes ((startable.owed_iff .native).mpr native)⟩, ?_, trivial, turns⟩
      apply ordered_await remembers _ _ rfl
      apply startable.running native (fun same => by cases same)
      intro other marked
      cases other with
      | native => rfl
      | webRtc => exact absurd (unrouted.symm.trans marked) Bool.false_ne_true
  | false =>
      rw [if_neg Bool.false_ne_true]
      unfold finalizeWebRtc
      cases webRtc : broker.marker .webRtc id with
      | true =>
          rw [if_pos rfl]
          refine ⟨⟨_, rfl, .revokes ((startable.owed_iff .webRtc).mpr webRtc)⟩, ?_, trivial, turns⟩
          apply ordered_await remembers _ _ rfl
          apply startable.running webRtc (fun same => by cases same)
          intro other marked
          cases other with
          | native => exact absurd (native.symm.trans marked) Bool.false_ne_true
          | webRtc => rfl
      | false =>
          rw [if_neg Bool.false_ne_true]
          have deliverable : Deliverable broker id := by
            apply startable.deliverable
            intro runtime
            cases runtime with
            | native => exact native
            | webRtc => exact webRtc
          refine ⟨?_, ordered_deliver deliverable _, turns_deliver deliverable _ turns⟩
          unfold deliver
          dsimp only
          split
          · rename_i delivered
            exact ⟨_, rfl, .answers deliverable.clear (deliverable.delivered.mp delivered)⟩
          · rename_i undelivered
            refine ⟨_, rfl, .invokes deliverable.clear fun returned => ?_⟩
            exact undelivered (deliverable.delivered.mpr returned)

/-! ## What a finalization awaits -/

theorem owed_revoked (log : List BrokerFact) (runtime : RuntimeKind) (id : String) :
    owed (.revoked runtime id :: log) runtime id = false := by
  have revoked : .revoked runtime id ∈ BrokerFact.revoked runtime id :: log := .head _
  rw [owed, decide_eq_false (not_not_intro revoked), Bool.and_false]

theorem owed_of_revoked {log : List BrokerFact} {other : RuntimeKind} {id : String}
    (left : owed (.revoked runtime id :: log) other id = true) : owed log other id = true := by
  rw [owed, and_eq_true, decide_eq_true_eq] at left ⊢
  exact ⟨left.1, fun mem => left.2 (.tail _ mem)⟩

/-- Once the runtime that a finalization stands at is revoked, it can deliver. -/
theorem Running.revoked {stage : FinalizationStage} (running : Running broker id stage)
    (remembers : Remembers config broker id) (accepted : broker.Accepted id)
    {runtime : RuntimeKind} (only : ∀ other, stage.covers other = true → other = runtime) :
    Deliverable (broker.record (.revoked runtime id)) id := by
  constructor
  · obtain ⟨fact, mem, accepts⟩ := accepted
    exact ⟨fact, .tail _ mem, accepts⟩
  · intro other
    apply eq_false_iff.mpr
    intro left
    cases only other (running.owed other (owed_of_revoked left))
    rw [record, owed_revoked] at left
    cases left
  · constructor
    · exact fun mem => .tail _ (remembers.delivered mem)
    · intro mem
      rcases mem_cons.mp mem with new | old
      · cases new
      · exact absurd old running.first

theorem ordered_settleRevoke {succeeded : Bool}
    (settled : broker.settleRevoke runtime id succeeded = some after)
    (ordered : OrderedAt config broker id) (sound : Sound config broker)
    (turns : Each CompletionTurn broker.log) :
    OrderedAt config after id ∧ Each CompletionTurn after.log := by
  unfold settleRevoke at settled
  split at settled
  · cases settled
  · rename_i finalization found
    have running := ordered.running finalization found
    have accepted := sound.finalizing id finalization found
    have failed : OrderedAt config (broker.settleFinalization id finalization .runtimeRevokeFailed)
          id ∧ Each CompletionTurn
        (broker.settleFinalization id finalization .runtimeRevokeFailed).log :=
      ⟨ordered_settle ordered.remembers finalization _,
        turns_failed turns finalization fun same => by cases same⟩
    have revokedTurns (runtime : RuntimeKind) :
        Each CompletionTurn (broker.record (.revoked runtime id)).log := .cons trivial turns
    split at settled
    · rename_i wasWebRtc stage
      cases settled
      rw [stage] at running
      cases succeeded with
      | false => exact failed
      | true =>
          have native : wasWebRtc = false :=
            eq_false_iff.mpr fun same => running.single (same ▸ rfl)
          have deliverable : Deliverable (broker.record (.revoked .native id)) id := by
            apply running.revoked ordered.remembers accepted
            intro other covered
            cases other with
            | native => rfl
            | webRtc => cases covered
          rw [if_pos rfl, native]
          exact ⟨ordered_deliver deliverable finalization,
            turns_deliver deliverable finalization (revokedTurns .native)⟩
    · rename_i stage
      cases settled
      rw [stage] at running
      cases succeeded with
      | false => exact failed
      | true =>
          have deliverable : Deliverable (broker.record (.revoked .webRtc id)) id := by
            apply running.revoked ordered.remembers accepted
            intro other covered
            cases other with
            | native => cases covered
            | webRtc => rfl
          exact ⟨ordered_deliver deliverable finalization,
            turns_deliver deliverable finalization (revokedTurns .webRtc)⟩
    · cases settled

/-- The hook's first return is remembered. -/
theorem Running.returned (running : Running broker id .delivering) (accepted : broker.Accepted id) :
    Remembers config ({ broker with
      completionDelivered := insert id broker.completionDelivered }.record
        (.hookReturned id true)) id := by
  have unmarked (runtime : RuntimeKind) : broker.marker runtime id = false := by
    apply eq_false_iff.mpr
    intro marked
    cases running.marked runtime marked
  have clear (runtime : RuntimeKind) : Broker.owed broker.log runtime id = false := by
    apply eq_false_iff.mpr
    intro left
    cases running.owed runtime left
  have grown : ({ broker with
      completionDelivered := insert id broker.completionDelivered }.record
        (.hookReturned id true)).Accepted id := by
    obtain ⟨fact, mem, accepts⟩ := accepted
    exact ⟨fact, .tail _ mem, accepts⟩
  constructor
  · exact fun _ => unmarked .webRtc
  · intro _ runtime marked
    exact absurd ((unmarked runtime).symm.trans marked) Bool.false_ne_true
  · exact fun _ _ => ⟨grown, unmarked⟩
  · exact fun _ => .head _
  · refine fun _ => ⟨grown, unmarked, fun runtime => ?_, .inl (Finset.mem_insert_self _ _)⟩
    rw [← clear runtime]
    simp [record, Broker.owed, required, BrokerFact.requires]

theorem ordered_settleHook {succeeded : Bool}
    (settled : broker.settleHook id succeeded = some after)
    (ordered : OrderedAt config broker id) (sound : Sound config broker)
    (turns : Each CompletionTurn broker.log) :
    OrderedAt config after id ∧ Each CompletionTurn after.log := by
  unfold settleHook at settled
  split at settled
  · cases settled
  · rename_i finalization found
    split at settled
    · cases settled
    · rename_i stage
      have running := ordered.running finalization found
      rw [not_not.mp stage] at running
      have accepted := sound.finalizing id finalization found
      split at settled
      · cases settled
        have remembers := @Running.returned config _ _ running accepted
        have returnedTurns : Each CompletionTurn ({ broker with
            completionDelivered := insert id broker.completionDelivered }.record
              (.hookReturned id true)).log := .cons running.first turns
        exact ⟨ordered_settle remembers finalization _, turns_completed returnedTurns finalization
          (.head _) (remembers.returned (.head _)).2.2.1⟩
      · cases settled
        have failed : Remembers config (broker.record (.hookReturned id false)) id :=
          ordered.remembers.records rfl { FewerRoutes.refl broker with } rfl
            ⟨[.hookReturned id false], rfl, fun fact mem => mem_singleton.mp mem ▸ rfl⟩
        have failedTurns : Each CompletionTurn (broker.record (.hookReturned id false)).log :=
          .cons trivial turns
        exact ⟨ordered_settle failed finalization _,
          turns_failed failedTurns finalization fun same => by cases same⟩

/-! ## Accepted completions -/

/-- A completion is accepted: the markers found are what is required from now on. -/
def accept (broker : TakeoverBroker) (sessions : TakeoverSessionManager) (id : String)
    (completion : TakeoverCompletionResult) : TakeoverBroker :=
  { broker with sessions }.record (.accepted id completion.interventionId completion.epoch
    (broker.marker .native id) (broker.marker .webRtc id))

variable {sessions : TakeoverSessionManager} {completion : TakeoverCompletionResult}
  {status : Nat} {error : String}

theorem accepted_accept (broker : TakeoverBroker) (sessions : TakeoverSessionManager) (id : String)
    (completion : TakeoverCompletionResult) : (broker.accept sessions id completion).Accepted id :=
  ⟨_, .head _, beq_self_eq_true _⟩

theorem required_accept (broker : TakeoverBroker) (sessions : TakeoverSessionManager)
    (completion : TakeoverCompletionResult) (runtime : RuntimeKind) :
    required (broker.accept sessions id completion).log runtime id =
      (broker.marker runtime id || required broker.log runtime id) := by
  cases runtime <;> simp [accept, record, required, BrokerFact.requires]

theorem owed_of_accept (left : owed (broker.accept sessions id completion).log runtime id = true) :
    broker.marker runtime id = true ∨ owed broker.log runtime id = true := by
  rw [owed, required_accept, and_eq_true, or_eq_true, decide_eq_true_eq] at left
  obtain ⟨marked | before, unrevoked⟩ := left
  · exact .inl marked
  · right
    have still : .revoked runtime id ∉ broker.log := fun mem => unrevoked (.tail _ mem)
    rw [owed, before, decide_eq_true still]
    rfl

theorem Remembers.accept (remembers : Remembers config broker id)
    (progress : TakeoverSessionManager.Progress config.sessions broker.sessions sessions) :
    Remembers config (broker.accept sessions id completion) id := by
  have accepted := accepted_accept broker sessions id completion
  have old {fact : BrokerFact} (mem : fact ∈ (broker.accept sessions id completion).log)
      (other : fact.acceptsSession id = false) : fact ∈ broker.log := by
    rcases mem_cons.mp mem with rfl | old
    · exact absurd ((beq_self_eq_true id).symm.trans other) Bool.false_ne_true.symm
    · exact old
  constructor
  · exact remembers.exclusive
  · intro _ runtime marked
    rw [required_accept]
    exact or_eq_true_iff.mpr (.inl marked)
  · exact fun runtime mem => ⟨accepted, (remembers.revoked runtime (old mem rfl)).2⟩
  · exact fun mem => .tail _ (remembers.delivered mem)
  · intro mem
    obtain ⟨_, none, clear, kept⟩ := remembers.returned (old mem rfl)
    refine ⟨accepted, none, fun runtime => ?_, ?_⟩
    · apply eq_false_iff.mpr
      intro left
      rcases owed_of_accept left with marked | before
      · exact absurd ((none runtime).symm.trans marked) Bool.false_ne_true
      · exact absurd ((clear runtime).symm.trans before) Bool.false_ne_true
    · rcases kept with kept | closed
      · exact .inl kept
      · exact .inr (closed.progress progress)

theorem Running.accept {stage : FinalizationStage} (running : Running broker id stage) :
    Running (broker.accept sessions id completion) id stage := by
  constructor
  · intro mem
    rcases mem_cons.mp mem with new | old
    · cases new
    · exact running.first old
  · exact running.single
  · intro runtime left
    rcases owed_of_accept left with marked | before
    · exact running.marked runtime marked
    · exact running.owed runtime before
  · exact running.marked

/-- A request for a session that is being finalized shares the finalization. -/
theorem ordered_join (found : broker.completionFinalizations.get? id = some finalization)
    (remembers : Remembers config broker id) (running : Running broker id finalization.stage)
    (wasNative wasWebRtc : Bool) :
    OrderedAt config (broker.joinFinalization completion id wasNative wasWebRtc) id := by
  unfold joinFinalization
  rw [found]
  constructor
  · exact remembers.records rfl { FewerRoutes.refl broker with } rfl ⟨[], rfl, by simp⟩
  · intro current stored
    rw [get?_set_self] at stored
    cases stored
    exact running.transfer ⟨[], rfl, by simp⟩ fun _ marked => marked

/-! ## Runs -/

/-- A request whose completion would be accepted, and that starts a finalization, finds the marker
of every runtime that is still owed a revocation; a retry does not meet a verifying session. -/
def keepsOwed (config : TakeoverBrokerConfig) (broker : TakeoverBroker) : BrokerEvent → Bool
  | .complete request =>
      let id := request.sessionId
      let marked runtime := !owed broker.log runtime id || broker.marker runtime id
      (broker.presents config request).isNone || broker.completionFinalizations.contains id
        || !decide (broker.Accepted id)
        || (decide (id ∉ broker.verifyingWebRtcSessions) && marked .native && marked .webRtc)
  | _ => true

structure Ordered (config : TakeoverBrokerConfig) (broker : TakeoverBroker) : Prop where
  sound : Sound config broker
  turns : Each CompletionTurn broker.log
  sessions : ∀ id, OrderedAt config broker id

theorem initial_ordered : Ordered config initial := by
  refine ⟨initial_sound, trivial, fun id => ⟨?_, ?_⟩⟩
  · constructor
    · intro native
      cases native
    · intro _ runtime marked
      cases runtime <;> cases marked
    · intro _ mem
      cases mem
    · intro mem
      cases mem
    · intro mem
      cases mem
  · intro finalization found
    cases found

theorem unaccepted_owed (unaccepted : ¬ broker.Accepted id) (runtime : RuntimeKind) :
    owed broker.log runtime id = false := by
  have none : required broker.log runtime id = false := by
    rw [required, any_eq_false]
    intro fact mem requires
    apply unaccepted
    refine ⟨fact, mem, ?_⟩
    cases fact with
    | accepted => exact (and_eq_true_iff.mp requires).1
    | _ => cases requires
  rw [owed, none, Bool.false_and]

/-- What the condition on a request says when it starts a finalization. -/
theorem keepsOwed_found {request : CompletionRequest} {completion : TakeoverCompletionResult}
    (keeps : broker.keepsOwed config (.complete request) = true)
    (presents : broker.presents config request = some completion)
    (idle : broker.completionFinalizations.get? request.sessionId = none) :
    (broker.Accepted request.sessionId →
      request.sessionId ∉ broker.verifyingWebRtcSessions) ∧
    ∀ runtime, owed broker.log runtime request.sessionId = true →
      broker.marker runtime request.sessionId = true := by
  have unstarted : broker.completionFinalizations.contains request.sessionId = false :=
    congrArg Option.isSome idle
  by_cases accepted : broker.Accepted request.sessionId
  · simp only [keepsOwed, presents, unstarted, accepted, Option.isNone_some, decide_true,
      Bool.not_true, Bool.false_or, and_eq_true, decide_eq_true_eq] at keeps
    obtain ⟨⟨unverified, native⟩, webRtc⟩ := keeps
    refine ⟨fun _ => unverified, fun runtime left => ?_⟩
    cases runtime with
    | native => simpa [left] using native
    | webRtc => simpa [left] using webRtc
  · refine ⟨fun is => absurd is accepted, fun runtime left => ?_⟩
    exact absurd ((unaccepted_owed accepted runtime).symm.trans left) Bool.false_ne_true

/-- A completion that is accepted can start a finalization. -/
theorem Ordered.startable (ordered : Ordered config broker) {principal : String}
    (outcome : TakeoverSessionManager.Completion config.sessions broker.sessions id principal
      (.ok completion) sessions)
    (found : ∀ runtime, owed broker.log runtime id = true → broker.marker runtime id = true) :
    Startable config (broker.accept sessions id completion) id := by
  have progress := (outcome.evolves.invariant_progress ordered.sound.sessions).2
  have remembers := (ordered.sessions id).remembers
  refine ⟨remembers.accept progress, accepted_accept _ _ _ _, ?_, ?_⟩
  · intro mem
    rcases mem_cons.mp mem with new | returned
    · cases new
    · exact (remembers.returned returned).2.2.2.resolve_right fun closed =>
        closed.not_completed ordered.sound outcome
  · intro runtime left
    rcases owed_of_accept left with marked | before
    · exact marked
    · exact found runtime before

theorem Ordered.plain {event : BrokerEvent} (ordered : Ordered config broker)
    (step : Step config broker event after) (plain : event.finalizes = false) :
    Ordered config after := by
  obtain ⟨progress, finalizations, more, log, idle⟩ := step.plain ordered.sound plain
  refine ⟨step_sound step ordered.sound, ?_, fun id => ?_⟩
  · rw [log]
    exact ordered.turns.append fun fact mem past => idle_turn (idle fact mem) past
  · apply (ordered.sessions id).transfer ordered.sound progress
      ⟨more, log, fun fact mem => idle_aside (idle fact mem) id⟩
    · rw [finalizations]
    · exact step.routing ordered.sound plain id

/-- A refused request is answered with an error. -/
theorem Ordered.refused (ordered : Ordered config broker)
    (gentle : TakeoverSessionManager.Gentle config.sessions broker.sessions sessions)
    (sound : Sound config ({ broker with sessions }.answer id (.error status error))) :
    Ordered config ({ broker with sessions }.answer id (.error status error)) := by
  refine ⟨sound, .cons trivial ordered.turns, fun other => ?_⟩
  have progress := (gentle.evolves.invariant_progress ordered.sound.sessions).2
  have fewer : FewerRoutes broker ({ broker with sessions }.answer id (.error status error)) :=
    { FewerRoutes.refl broker with }
  have log : ∃ more, ({ broker with sessions }.answer id (.error status error)).log =
      more ++ broker.log ∧ ∀ fact ∈ more, fact.aside other = true := by
    refine ⟨[.answered id (.error status error)], rfl, fun fact mem => ?_⟩
    rw [mem_singleton.mp mem]
    rfl
  exact (ordered.sessions other).transfer ordered.sound progress log rfl (fewer.routing rfl other)

/-- Other sessions do not see that a completion is accepted. -/
theorem OrderedAt.accept_elsewhere {other principal : String} (ordered : OrderedAt config broker other)
    (sound : Sound config broker) (ne : other ≠ id)
    (outcome : TakeoverSessionManager.Completion config.sessions broker.sessions id principal
      (.ok completion) sessions) : OrderedAt config (broker.accept sessions id completion) other := by
  have progress := (outcome.evolves.invariant_progress sound.sessions).2
  have fewer : FewerRoutes broker (broker.accept sessions id completion) :=
    { FewerRoutes.refl broker with }
  have log : ∃ more, (broker.accept sessions id completion).log = more ++ broker.log ∧
      ∀ fact ∈ more, fact.aside other = true := by
    refine ⟨[_], rfl, fun fact mem => ?_⟩
    rw [mem_singleton.mp mem]
    exact bne_iff_ne.mpr ne.symm
  exact ordered.transfer sound progress log rfl (fewer.routing rfl other)

theorem Ordered.complete (ordered : Ordered config broker) {request : CompletionRequest}
    (keeps : broker.keepsOwed config (.complete request) = true) :
    Ordered config (broker.complete config request) := by
  have sound : Sound config (broker.complete config request) :=
    @step_sound _ _ _ (.complete request) rfl ordered.sound
  rcases complete_cases broker request with
    ⟨_, sessions, status, error, gentle, same⟩ |
    ⟨principal, completion, sessions, presents, _, outcome, same⟩
  · rw [same] at sound ⊢
    exact ordered.refused gentle sound
  · rw [same] at sound ⊢
    have accepted : Sound config (broker.accept sessions request.sessionId completion) :=
      ordered.sound.accepts outcome _ _
    have turns : Each CompletionTurn (broker.accept sessions request.sessionId completion).log :=
      .cons trivial ordered.turns
    have elsewhere (other : String) (ne : other ≠ request.sessionId) :
        OrderedAt config ((broker.accept sessions request.sessionId completion).joinFinalization
          completion request.sessionId (broker.marker .native request.sessionId)
          (broker.marker .webRtc request.sessionId)) other :=
      ((ordered.sessions other).accept_elsewhere ordered.sound ne outcome).elsewhere accepted
        (elsewhere_join ne completion _ _)
    have at' := ordered.sessions request.sessionId
    have progress := (outcome.evolves.invariant_progress ordered.sound.sessions).2
    cases found : (broker.accept sessions request.sessionId
        completion).completionFinalizations.get? request.sessionId with
    | some finalization =>
        have running : Running (broker.accept sessions request.sessionId completion)
            request.sessionId finalization.stage := (at'.running finalization found).accept
        refine ⟨sound, ?_, fun other => ?_⟩
        · rw [← join_shares found completion (broker.marker .native request.sessionId)
            (broker.marker .webRtc request.sessionId)] at turns
          exact turns
        · by_cases here : other = request.sessionId
          · subst here
            exact ordered_join found (at'.remembers.accept progress) running _ _
          · exact elsewhere other here
    | none =>
        have startable := ordered.startable outcome (keepsOwed_found keeps presents found).2
        obtain ⟨_, started, startedTurns⟩ := join_attempts startable found turns completion
        refine ⟨sound, startedTurns, fun other => ?_⟩
        by_cases here : other = request.sessionId
        · subst here
          exact started
        · exact elsewhere other here

theorem step_ordered {event : BrokerEvent} (step : Step config broker event after)
    (keeps : broker.keepsOwed config event = true) (ordered : Ordered config broker) :
    Ordered config after := by
  have sound := step_sound step ordered.sound
  cases event with
  | complete request =>
      cases step
      exact ordered.complete keeps
  | settleRevoke runtime sessionId succeeded =>
      have own := ordered_settleRevoke step (ordered.sessions sessionId) ordered.sound ordered.turns
      refine ⟨sound, own.2, fun id => ?_⟩
      by_cases here : id = sessionId
      · exact here ▸ own.1
      · exact (ordered.sessions id).elsewhere ordered.sound (elsewhere_settleRevoke step here)
  | settleHook sessionId succeeded =>
      have own := ordered_settleHook step (ordered.sessions sessionId) ordered.sound ordered.turns
      refine ⟨sound, own.2, fun id => ?_⟩
      by_cases here : id = sessionId
      · exact here ▸ own.1
      · exact (ordered.sessions id).elsewhere ordered.sound (elsewhere_settleHook step here)
  | _ => exact ordered.plain step rfl

/-- A successful revocation of a running finalization is followed by the hook. -/
theorem Ordered.revoked_invokes (ordered : Ordered config broker)
    (settled : broker.settleRevoke runtime id true = some after) :
    ∃ interventionId epoch,
      after.log = .hookInvoked id interventionId epoch :: .revoked runtime id :: broker.log := by
  unfold settleRevoke at settled
  split at settled
  · cases settled
  · rename_i finalization found
    have running := (ordered.sessions id).running finalization found
    have undelivered : id ∉ (broker.record (.revoked runtime id)).completionDelivered :=
      fun delivered => running.first ((ordered.sessions id).remembers.delivered delivered)
    have delivers : ((broker.record (.revoked runtime id)).deliver id finalization).log =
        .hookInvoked id finalization.interventionId finalization.epoch ::
          .revoked runtime id :: broker.log := by
      unfold deliver
      dsimp only
      rw [if_neg undelivered]
      rfl
    split at settled
    · rename_i wasWebRtc stage
      have native : wasWebRtc = false :=
        eq_false_iff.mpr fun same => running.single (same ▸ stage)
      cases settled
      rw [if_pos rfl, native]
      exact ⟨_, _, delivers⟩
    · cases settled
      rw [if_pos rfl]
      exact ⟨_, _, delivers⟩
    · cases settled

/-- In a run where every request that starts a finalization finds the markers of what is still
owed, the hook is invoked after the revocations, returns at most once and precedes every answer
done; a retry takes up what has not succeeded, and a successful revocation goes on to the hook. -/
theorem run_completion_once {events : List BrokerEvent}
    (run : Run (Guarded (Step config) fun source event => source.keepsOwed config event = true)
      initial events broker) :
    Each CompletionTurn broker.log ∧
      (∀ request completion, broker.presents config request = some completion →
        broker.Accepted request.sessionId →
        broker.completionFinalizations.get? request.sessionId = none →
        broker.keepsOwed config (.complete request) = true →
        ∃ wasNative wasWebRtc fact,
          (broker.complete config request).log =
            fact :: .accepted request.sessionId completion.interventionId completion.epoch
              wasNative wasWebRtc :: broker.log ∧
          Attempt (.accepted request.sessionId completion.interventionId completion.epoch
              wasNative wasWebRtc :: broker.log)
            request.sessionId completion.interventionId completion.epoch
            completion.alreadyCompleted fact) ∧
      ∀ runtime id after, Step config broker (.settleRevoke runtime id true) after →
        ∃ interventionId epoch,
          after.log = .hookInvoked id interventionId epoch :: .revoked runtime id :: broker.log := by
  have ordered : Ordered config broker := run.invariant
    (fun step ordered => step_ordered step.1 step.2 ordered) initial_ordered
  refine ⟨ordered.turns, ?_, fun runtime id after step => ordered.revoked_invokes step⟩
  intro request completion presents accepted idle keeps
  obtain ⟨unverified, found⟩ := keepsOwed_found keeps presents idle
  rcases complete_cases broker request with
    ⟨none | verifying, _⟩ | ⟨principal, _, sessions, presented, _, outcome, same⟩
  · rw [none] at presents
    cases presents
  · exact absurd verifying (unverified accepted)
  · cases presents.symm.trans presented
    obtain ⟨fact, log, attempt⟩ := (join_attempts (ordered.startable outcome found) idle
      (.cons trivial ordered.turns) completion).1
    rw [same]
    exact ⟨_, _, fact, log, attempt⟩

/-! ### A retry after a failed hook, and one that forgets a runtime -/

section Samples

def sampleRetried : List BrokerEvent :=
  sampleCompleted ++ [.settleHook "takeover-0" false, .complete sampleRequest,
    .settleHook "takeover-0" true]

/-- The revocation of the runtime fails, its marker is forgotten, and the request is retried. -/
def sampleForgotten : List BrokerEvent :=
  [.complete sampleRequest, .settleRevoke .webRtc "takeover-0" false,
    .revokeForIntervention "intervention", .complete sampleRequest]

theorem sampleRetried_once :
    ∃ broker, Run (Guarded (Step (sampleBroker lapsedConfig)) fun source event =>
        source.keepsOwed (sampleBroker lapsedConfig) event = true) initial
        (sampleClaimed ++ sampleRetried) broker ∧
      .answered "takeover-0" (.done true) ∈ broker.log ∧ Each CompletionTurn broker.log := by
  have answered : (execute (permitted (next (sampleBroker lapsedConfig)) fun source event =>
      source.keepsOwed (sampleBroker lapsedConfig) event = true) initial
      (sampleClaimed ++ sampleRetried)).any (fun broker =>
        decide (.answered "takeover-0" (.done true) ∈ broker.log)) = true := by decide
  obtain ⟨broker, executed, done⟩ := Option.any_eq_true _ _ |>.mp answered
  have run := run_guarded_of_execute executed
  exact ⟨broker, run, of_decide_eq_true done, (run_completion_once run).1⟩

/-- The hook is invoked although the revocation has only failed so far. -/
theorem sampleForgotten_disordered :
    ¬ ∀ (config : TakeoverBrokerConfig) (events : List BrokerEvent) (broker : TakeoverBroker),
      Run (Step config) initial events broker → Each CompletionTurn broker.log := by
  intro claimed
  have retried : (execute (next (sampleBroker lapsedConfig)) initial
      (sampleClaimed ++ sampleForgotten)).map TakeoverBroker.log =
        some [.hookInvoked "takeover-0" "intervention" 1,
          .accepted "takeover-0" "intervention" 1 false false,
          .answered "takeover-0" (.error 503 "takeover_runtime_revoke_failed"),
          .revoking .webRtc "takeover-0", .accepted "takeover-0" "intervention" 1 false true,
          .linked "takeover-0" allowAllWebRtcInput] := by decide
  obtain ⟨broker, executed, log⟩ := Option.map_eq_some_iff.mp retried
  have turns := claimed _ _ broker ((run_iff_execute _ _ _ _).mpr executed)
  rw [log] at turns
  exact absurd (turns.1 .webRtc) (by decide)

/-- Every read of the clock finds it three seconds later. -/
def strideConfig : TakeoverSessionConfig :=
  { TakeoverSessionManager.holderConfig with
    now := fun reads => 3000 * reads
    now_monotone := fun _ _ le => by dsimp only; omega }

end Samples

end TakeoverBroker

end ExecutionHandoff.Broker
