import Mathlib.Logic.Equiv.Basic
import ExecutionHandoff.Library.Fields
import ExecutionHandoff.Takeover.SessionCalls

/-!
# Single authority of the session manager

At most one record of an intervention is live at any time from the last clock
read on, generations never decrease, and a binding changes only together with a
larger generation.  Each of these is checked on the elementary steps and lifted
to whole runs.
-/

namespace ExecutionHandoff.Takeover

open Library
open OrderedMap (get?_mapValues get?_set_self get?_set_ne)

/-! ## What can happen to one record -/

/-- One elementary step seen from a record that survives it. -/
inductive RecordChange (record : TakeoverRecord) : TakeoverRecord → Prop where
  | keep : RecordChange record record
  | write {record' : TakeoverRecord} (wrote : RecordWrite record record') :
      RecordChange record record'
  | revoke : RecordChange record { record with revoked := true }
  | completeVerified (deadline : Int) :
      RecordChange record
        { record with
          completed := true, revoked := true, released := true, completionExpiresAt := deadline }

/-- The facts about one record that every change keeps. -/
structure WellFormed (record : TakeoverRecord) : Prop where
  unbound : record.clientBinding = none → record.clientGeneration = 0
  bound : ∀ clientBinding, record.clientBinding = some clientBinding →
    shaped 24 128 clientBinding = true ∧ 1 ≤ record.clientGeneration
  fenced : record.completed = true → record.revoked = true

/-- The later record is the earlier one further on in its life. -/
structure Advances (record record' : TakeoverRecord) : Prop where
  locator : record'.locator = record.locator
  generation : record.clientGeneration ≤ record'.clientGeneration
  binding : record.clientBinding ≠ record'.clientBinding →
    record.clientGeneration < record'.clientGeneration
  revoked : record.revoked = true → record'.revoked = true

theorem Advances.refl (record : TakeoverRecord) : Advances record record :=
  ⟨rfl, Nat.le_refl _, fun changed => absurd rfl changed, id⟩

theorem Advances.trans {first middle last : TakeoverRecord} (left : Advances first middle)
    (right : Advances middle last) : Advances first last where
  locator := right.locator.trans left.locator
  generation := Nat.le_trans left.generation right.generation
  binding := by
    intro changed
    by_cases early : first.clientBinding = middle.clientBinding
    · exact Nat.lt_of_le_of_lt left.generation (right.binding (early ▸ changed))
    · exact Nat.lt_of_lt_of_le (left.binding early) right.generation
  revoked := right.revoked ∘ left.revoked

theorem RecordWrite.advances {record record' : TakeoverRecord} (wrote : RecordWrite record record')
    (wellFormed : WellFormed record) : Advances record record' := by
  cases wrote with
  | claim clientBinding time unbound shape =>
      have zero := wellFormed.unbound unbound
      exact ⟨rfl, by simp [zero], fun _ => by simp [zero], id⟩
  | reconnect clientBinding time claimed idle shape =>
      exact ⟨rfl, Nat.le_succ _, fun _ => Nat.lt_succ_self _, id⟩
  | see | release | beginBound | beginVerified | finish =>
      exact ⟨rfl, Nat.le_refl _, fun changed => absurd rfl changed, id⟩
  | complete | revoke =>
      exact ⟨rfl, Nat.le_refl _, fun changed => absurd rfl changed, fun _ => rfl⟩

theorem RecordWrite.wellFormed {record record' : TakeoverRecord}
    (wrote : RecordWrite record record') (wellFormed : WellFormed record) : WellFormed record' := by
  obtain ⟨unbound, bound, fenced⟩ := wellFormed
  cases wrote with
  | claim clientBinding time _ shape =>
      exact ⟨fun no => (nomatch no), by rintro _ ⟨⟩; exact ⟨shape, Nat.le_refl _⟩, fenced⟩
  | reconnect clientBinding time claimed idle shape =>
      exact ⟨fun no => (nomatch no), by rintro _ ⟨⟩; exact ⟨shape, Nat.succ_pos _⟩, fenced⟩
  | see | release | beginBound | beginVerified | finish => exact ⟨unbound, bound, fenced⟩
  | complete | revoke => exact ⟨unbound, bound, fun _ => rfl⟩

theorem RecordChange.advances {record record' : TakeoverRecord}
    (change : RecordChange record record') (wellFormed : WellFormed record) :
    Advances record record' := by
  cases change with
  | keep => exact .refl record
  | write wrote => exact wrote.advances wellFormed
  | revoke | completeVerified =>
      exact ⟨rfl, Nat.le_refl _, fun changed => absurd rfl changed, fun _ => rfl⟩

theorem RecordChange.wellFormed {record record' : TakeoverRecord}
    (change : RecordChange record record') (wellFormed : WellFormed record) :
    WellFormed record' := by
  cases change with
  | keep => exact wellFormed
  | write wrote => exact wrote.wellFormed wellFormed
  | revoke | completeVerified => exact ⟨wellFormed.unbound, wellFormed.bound, fun _ => rfl⟩

theorem minted_wellFormed (config : TakeoverSessionConfig) (id interventionId : String)
    (epoch : Int) (principalBinding : String) (time : Int) :
    WellFormed
      (TakeoverSessionManager.minted config id interventionId epoch principalBinding time) :=
  ⟨fun _ => rfl, fun _ no => (nomatch no), fun no => (nomatch no)⟩

/-- Unrevoked and unexpired. -/
def Live (time : Int) (record : TakeoverRecord) : Prop :=
  record.revoked = false ∧ time < record.expiresAt

theorem RecordChange.live {record record' : TakeoverRecord} (change : RecordChange record record')
    (wellFormed : WellFormed record) {time : Int} (live : Live time record') :
    Live time record ∧ record'.interventionId = record.interventionId := by
  have advances := change.advances wellFormed
  have expiry : record'.expiresAt = record.expiresAt := congrArg (·.expiresAt) advances.locator
  refine ⟨⟨?_, expiry ▸ live.2⟩, congrArg (·.interventionId) advances.locator⟩
  cases revoked : record.revoked with
  | false => rfl
  | true => exact absurd (advances.revoked revoked) (by simp [live.1])

namespace TakeoverSessionManager

variable {config : TakeoverSessionConfig}

theorem supersede_change (time : Int) (interventionId : String) (record : TakeoverRecord) :
    RecordChange record (supersede time interventionId record) := by
  unfold supersede
  split
  · exact .revoke
  · exact .keep

theorem revokeMatching_change (interventionId : String) (record : TakeoverRecord) :
    RecordChange record (revokeMatching interventionId record) := by
  unfold revokeMatching
  split
  · exact .revoke
  · exact .keep

theorem completeVerified_change (time : Int) (interventionId : String) (epoch : Int)
    (record : TakeoverRecord) :
    RecordChange record (completeVerified config time interventionId epoch record) := by
  unfold completeVerified
  split
  · exact .completeVerified _
  · exact .keep

/-! ## What can happen to the store -/

/-- Where a stored record comes from: an earlier record, or a minting in this very step. -/
inductive Source (config : TakeoverSessionConfig) (first last : TakeoverSessionManager)
    (id : String) (record' : TakeoverRecord) : Prop where
  | changed (record : TakeoverRecord) (stored : first.records.get? id = some record)
      (change : RecordChange record record')
  | minted (interventionId : String) (epoch : Int) (principalBinding : String) (time : Int)
      (read : JustRead config first time) (fresh : id = config.createId first.created)
      (created : last.created = first.created + 1)
      (record : record' = minted config id interventionId epoch principalBinding time)
      (exclusive : ∀ other current, other ≠ id → last.records.get? other = some current →
        current.interventionId = interventionId → current.revoked = true ∨ current.expiresAt ≤ time)

theorem mapped_source {first last : TakeoverSessionManager} {id : String}
    {record' : TakeoverRecord} {f : TakeoverRecord → TakeoverRecord}
    (change : ∀ record, RecordChange record (f record))
    (stored : (first.records.mapValues f).get? id = some record') :
    Source config first last id record' := by
  rw [get?_mapValues] at stored
  obtain ⟨record, found, rfl⟩ := Option.map_eq_some_iff.mp stored
  exact .changed record found (change record)

/-- Every record after an elementary step has a source before it. -/
theorem Elementary.source {first last : TakeoverSessionManager}
    (step : Elementary config first last) {id : String} {record' : TakeoverRecord}
    (stored : last.records.get? id = some record') : Source config first last id record' := by
  cases step with
  | tick => exact .changed record' stored .keep
  | @write written record next found wrote =>
      by_cases same : id = written
      · subst same
        cases (get?_set_self ..).symm.trans stored
        exact .changed record found (.write wrote)
      · rw [withRecord_records, get?_set_ne _ _ same] at stored
        exact .changed record' stored .keep
  | prune read =>
      rw [pruned, OrderedMap.get?_filterValues] at stored
      exact .changed record' (Option.filter_eq_some_iff.mp stored).1 .keep
  | @mint time interventionId epoch principalBinding read noneReusable =>
      by_cases same : id = config.createId first.created
      · have new := stored
        rw [minting, same, get?_set_self] at new
        refine .minted interventionId epoch principalBinding time read same rfl
          (by rw [same]; exact (Option.some.inj new).symm) ?_
        intro other current ne found owned
        rw [minting, get?_set_ne _ _ (same ▸ ne), get?_mapValues] at found
        obtain ⟨source, _, rfl⟩ := Option.map_eq_some_iff.mp found
        unfold supersede at owned ⊢
        split at owned
        · rename_i live
          exact .inl (by rw [if_pos live])
        · rename_i dead
          rw [if_neg dead]
          exact .inr (Int.not_lt.mp fun unexpired => dead ⟨owned, unexpired⟩)
      · rw [minting, get?_set_ne _ _ same] at stored
        exact mapped_source (supersede_change time interventionId) stored
  | verified => exact mapped_source (completeVerified_change _ _ _) stored
  | revokeIntervention => exact mapped_source (revokeMatching_change _) stored

theorem Elementary.counters {first last : TakeoverSessionManager}
    (step : Elementary config first last) :
    first.reads ≤ last.reads ∧ first.created ≤ last.created := by
  cases step with
  | tick => exact ⟨Nat.le_succ _, Nat.le_refl _⟩
  | mint => exact ⟨Nat.le_refl _, Nat.le_succ _⟩
  | write | prune | verified | revokeIntervention => exact ⟨Nat.le_refl _, Nat.le_refl _⟩

/-! ## The invariant -/

/-- No clock read so far was later than `time`. -/
def Reached (config : TakeoverSessionConfig) (manager : TakeoverSessionManager) (time : Int) :
    Prop :=
  ∀ reads < manager.reads, config.now reads ≤ time

/-- From the last clock read on, an intervention has at most one live record. -/
def AtMostOneLive (config : TakeoverSessionConfig) (manager : TakeoverSessionManager) : Prop :=
  ∀ time, Reached config manager time → ∀ id record other current,
    manager.records.get? id = some record → manager.records.get? other = some current →
    record.interventionId = current.interventionId → Live time record → Live time current →
    id = other

structure Invariant (config : TakeoverSessionConfig) (manager : TakeoverSessionManager) :
    Prop where
  keyed : ∀ id record, manager.records.get? id = some record → record.id = id
  issued : ∀ id record, manager.records.get? id = some record →
    ∃ count < manager.created, id = config.createId count
  wellFormed : ∀ id record, manager.records.get? id = some record → WellFormed record
  exclusive : AtMostOneLive config manager

theorem initial_invariant : Invariant config initial := by
  refine ⟨?_, ?_, ?_, ?_⟩
  · intro id record stored
    cases stored
  · intro id record stored
    cases stored
  · intro id record stored
    cases stored
  · intro time reached id record other current stored
    cases stored

/-- A fresh record shares its intervention with no other live record. -/
theorem fresh_alone {first last : TakeoverSessionManager} {time readTime : Int}
    {current : TakeoverRecord} (read : JustRead config first readTime)
    (reads : first.reads ≤ last.reads) (reached : Reached config last time)
    (excluded : current.revoked = true ∨ current.expiresAt ≤ readTime)
    (live : Live time current) : False := by
  obtain ⟨count, counted, rfl⟩ := read
  have passed := reached count (by omega)
  rcases excluded with revoked | expired
  · exact absurd revoked (by simp [live.1])
  · exact absurd live.2 (by omega)

theorem Elementary.invariant {first last : TakeoverSessionManager}
    (step : Elementary config first last) (inv : Invariant config first) :
    Invariant config last := by
  have counters := step.counters
  refine ⟨?_, ?_, ?_, ?_⟩
  · intro id record' stored
    cases step.source stored with
    | changed record found change =>
        have locator := (change.advances (inv.wellFormed id record found)).locator
        exact (congrArg (·.id) locator).trans (inv.keyed id record found)
    | minted _ _ _ _ _ _ _ same => rw [same]; rfl
  · intro id record' stored
    cases step.source stored with
    | changed record found change =>
        obtain ⟨count, below, same⟩ := inv.issued id record found
        exact ⟨count, Nat.lt_of_lt_of_le below counters.2, same⟩
    | minted _ _ _ _ _ fresh created => exact ⟨first.created, by omega, fresh⟩
  · intro id record' stored
    cases step.source stored with
    | changed record found change => exact change.wellFormed (inv.wellFormed id record found)
    | minted _ _ _ _ _ _ _ same => exact same ▸ minted_wellFormed config _ _ _ _ _
  · intro time reached id record' other current' stored stored' owned live live'
    cases step.source stored with
    | changed record found change =>
        obtain ⟨before, owner⟩ := change.live (inv.wellFormed id record found) live
        cases step.source stored' with
        | changed current found' change' =>
            obtain ⟨before', owner'⟩ := change'.live (inv.wellFormed other current found') live'
            exact inv.exclusive time (fun count below => reached count (by omega)) id record other
              current found found' (owner.symm.trans (owned.trans owner')) before before'
        | minted interventionId _ _ readTime read _ _ same exclusive =>
            by_contra ne
            have mine : record'.interventionId = interventionId := by rw [owned, same]; rfl
            exact fresh_alone read counters.1 reached (exclusive id record' ne stored mine) live
    | minted interventionId _ _ readTime read _ _ same exclusive =>
        by_contra ne
        have mine : current'.interventionId = interventionId := by rw [← owned, same]; rfl
        exact fresh_alone read counters.1 reached
          (exclusive other current' (Ne.symm ne) stored' mine) live'

/-! ## Progress along runs -/

/-- Records advance, disappear or are minted under an id that was never created before. -/
structure Progress (config : TakeoverSessionConfig) (first last : TakeoverSessionManager) :
    Prop where
  reads : first.reads ≤ last.reads
  created : first.created ≤ last.created
  records : ∀ id record', last.records.get? id = some record' →
    (∃ record, first.records.get? id = some record ∧ Advances record record') ∨
      ∃ count, first.created ≤ count ∧ id = config.createId count

theorem Progress.refl (manager : TakeoverSessionManager) : Progress config manager manager :=
  ⟨Nat.le_refl _, Nat.le_refl _, fun _ record stored => .inl ⟨record, stored, .refl record⟩⟩

theorem Progress.trans {first middle last : TakeoverSessionManager}
    (left : Progress config first middle) (right : Progress config middle last) :
    Progress config first last where
  reads := Nat.le_trans left.reads right.reads
  created := Nat.le_trans left.created right.created
  records := by
    intro id record'' stored
    rcases right.records id record'' stored with ⟨record', found, late⟩ | ⟨count, new, same⟩
    · rcases left.records id record' found with ⟨record, start, early⟩ | fresh
      · exact .inl ⟨record, start, early.trans late⟩
      · exact .inr fresh
    · exact .inr ⟨count, Nat.le_trans left.created new, same⟩

theorem Elementary.progress {first last : TakeoverSessionManager}
    (step : Elementary config first last) (inv : Invariant config first) :
    Progress config first last where
  reads := step.counters.1
  created := step.counters.2
  records := by
    intro id record' stored
    cases step.source stored with
    | changed record found change =>
        exact .inl ⟨record, found, change.advances (inv.wellFormed id record found)⟩
    | minted _ _ _ _ _ fresh => exact .inr ⟨first.created, Nat.le_refl _, fresh⟩

theorem Evolves.invariant_progress {first last : TakeoverSessionManager}
    (evolves : Evolves config first last) (inv : Invariant config first) :
    Invariant config last ∧ Progress config first last := by
  induction evolves with
  | refl => exact ⟨inv, .refl first⟩
  | tail _ step ih => exact ⟨step.invariant ih.1, ih.2.trans (step.progress ih.1)⟩

/-- A record stored at both ends of a progress is the same one, further on: ids are not reused. -/
theorem Progress.kept {first last : TakeoverSessionManager} (progress : Progress config first last)
    (inv : Invariant config first) {id : String} {record record' : TakeoverRecord}
    (before : first.records.get? id = some record)
    (after : last.records.get? id = some record') : Advances record record' := by
  rcases progress.records id record' after with ⟨source, found, advances⟩ | ⟨count, new, same⟩
  · cases before.symm.trans found
    exact advances
  · obtain ⟨issue, below, origin⟩ := inv.issued id record before
    have reused := config.createId_injective (same.symm.trans origin)
    omega

theorem SessionRun.invariant {last : TakeoverSessionManager} {calls : List SessionCall}
    (run : SessionRun config initial calls last) : Invariant config last :=
  ((SessionRun.evolves run).invariant_progress initial_invariant).1

/-- In every reachable state an intervention has at most one live record; over every
continuation generations do not decrease, and a step that rebinds a record also raises
its generation. -/
theorem run_single_authority {before after : List SessionCall}
    {middle last : TakeoverSessionManager} (reached : SessionRun config initial before middle)
    (continued : SessionRun config middle after last) :
    AtMostOneLive config middle ∧
      (∀ id record record', middle.records.get? id = some record →
        last.records.get? id = some record' →
        record.clientGeneration ≤ record'.clientGeneration) ∧
      (∀ call next, SessionStep config middle call next → ∀ id record record',
        middle.records.get? id = some record → next.records.get? id = some record' →
        record.clientBinding ≠ record'.clientBinding →
        record.clientGeneration < record'.clientGeneration) := by
  have inv := SessionRun.invariant reached
  refine ⟨inv.exclusive, ?_, ?_⟩
  · intro id record record' stored stored'
    have progress := ((SessionRun.evolves continued).invariant_progress inv).2
    exact (progress.kept inv stored stored').generation
  · intro call next step id record record' stored stored' rebound
    have progress := (step.evolves.invariant_progress inv).2
    exact (progress.kept inv stored stored').binding rebound

/-! ## A sample session -/

def sampleText (kind clientBinding generation : String) : String :=
  signedText ["mcp-execution-handoff/" ++ kind, "takeover-0", "intervention", "1", "principal",
    clientBinding, generation, "1001"]

def sampleBinding : String := "AAAAAAAAAAAAAAAAAAAAAAAA"
def nextSampleBinding : String := "BBBBBBBBBBBBBBBBBBBBBBBB"
def sampleCapability : String := "ynKPXlCF721ZUTuG4TffAkHqKbLumdyKJRIuE56r5TY"
def sampleReconnectHandle : String := "JTuRQ-FL7t2j_Yzklj-AS0JebWSOSaC-7h2_NttxXJw"
def nextSampleCapability : String := "2hFO3Nmc_atovDh_RoHQfAP4Ae3cI6w1d8g4BMtUtmE"
def nextSampleReconnectHandle : String := "uxZ7-e1IT5pQwEiCe-qcF9BAMI8VMDJYxHhUW7IyalM"

/-- A permutation of the strings that agrees with HMAC-SHA256 under the all-zero key on the
texts the sample session signs. -/
def sampleHmac : Equiv.Perm String :=
  (Equiv.swap (sampleText "takeover/v2" sampleBinding "1") sampleCapability).trans
    ((Equiv.swap (sampleText "takeover-reconnect/v1" sampleBinding "1")
      sampleReconnectHandle).trans
      ((Equiv.swap (sampleText "takeover/v2" nextSampleBinding "2") nextSampleCapability).trans
        (Equiv.swap (sampleText "takeover-reconnect/v1" nextSampleBinding "2")
          nextSampleReconnectHandle)))

/-- One second of media, a clock that ticks once a read, numbered ids. -/
def sampleConfig : TakeoverSessionConfig where
  ttlMs := 1000
  reconnectIdleMs := 250
  completionGraceMs := 1000
  now := fun reads => reads
  createId := fun count => "takeover-" ++ toString count
  hmac := sampleHmac
  ttl_valid := by decide
  reconnectIdle_valid := by decide
  completionGrace_valid := by decide
  now_monotone := fun _ _ le => Int.ofNat_le.mpr le
  createId_injective := fun _ _ equal =>
    toString_nat_injective ((String.append_right_inj _).mp equal)

def sampleClaim : List SessionOp :=
  [.ensure "intervention" 1 "principal", .claimClient "takeover-0" "principal" sampleBinding]

/-- Release the first generation and reconnect with its handle. -/
def sampleReconnect : List SessionOp :=
  [.releaseClientGeneration "takeover-0" "principal" sampleBinding 1,
    .reconnectClient "takeover-0" "principal" sampleReconnectHandle nextSampleBinding]

def sampleClaimed : TakeoverSessionManager := (replay sampleConfig initial sampleClaim).2

def sampleReconnected : TakeoverSessionManager :=
  (replay sampleConfig sampleClaimed sampleReconnect).2

theorem sampleConfig_single_authority :
    AtMostOneLive sampleConfig sampleClaimed ∧
      ∃ record record', sampleClaimed.records.get? "takeover-0" = some record ∧
        sampleReconnected.records.get? "takeover-0" = some record' ∧
        record.clientGeneration = 1 ∧ record'.clientGeneration = 2 ∧
        record.clientGeneration ≤ record'.clientGeneration := by
  have reached : SessionRun sampleConfig initial _ sampleClaimed := replay_run initial sampleClaim
  have continued : SessionRun sampleConfig sampleClaimed _ sampleReconnected :=
    replay_run sampleClaimed sampleReconnect
  obtain ⟨single, generations, _⟩ := run_single_authority reached continued
  have claimed : (sampleClaimed.records.get? "takeover-0").map (·.clientGeneration) = some 1 := by
    decide
  have reconnected :
      (sampleReconnected.records.get? "takeover-0").map (·.clientGeneration) = some 2 := by
    decide
  obtain ⟨record, stored, one⟩ := Option.map_eq_some_iff.mp claimed
  obtain ⟨record', stored', two⟩ := Option.map_eq_some_iff.mp reconnected
  exact ⟨single, record, record', stored, stored', one, two,
    generations "takeover-0" record record' stored stored'⟩

end TakeoverSessionManager

end ExecutionHandoff.Takeover
