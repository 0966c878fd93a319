import ExecutionHandoff.Takeover.SessionCompletion
import ExecutionHandoff.WebSocket.Ingress

/-!
# One usable lease per WebSocket session

A record leaves the maps only when its session is revoked or has expired, so a
session never gets a second record, and the leases of a session all share one.
Every accept raises the generation of that record and of the stored session
above those of the leases before it.  What a superseded lease still does
therefore reads the clock and changes nothing.
-/

namespace ExecutionHandoff.WebSocket

open ExecutionHandoff.Library List Option
open OrderedMap (get?_set_ne get?_set_self get?_of_get?_delete get?_delete_ne get?_set)
open StateExcept hiding read update
open ExecutionHandoff.Takeover
open TakeoverSessionManager (Evolves Guarantees Active Progress)
open TakeoverSessionManager (validateLocator evolves_ticked ensures_requireActive initial_invariant
  Granted settled_of_stored GenerationBumped Revoked endUse_guarantees complete_guarantees
  perform_guarantees ensures_putRecord)
open Ensures (reading updating)

variable {config : SessionAuthorityConfig}

/-! ## Sessions that are over -/

/-- The session is gone, revoked, or expired at a time the clock has reached. -/
def Retired (config : SessionAuthorityConfig) (id : String) (sessions : TakeoverSessionManager) :
    Prop :=
  ∃ time, time ≤ config.sessions.now sessions.reads ∧
    TakeoverSessionManager.Settled config.sessions
      (fun record => record.revoked = true ∨ record.expiresAt ≤ time) id sessions

theorem Retired.progress {first last : TakeoverSessionManager} {id : String}
    (retired : Retired config id first) (progress : Progress config.sessions first last) :
    Retired config id last := by
  obtain ⟨time, reached, settled⟩ := retired
  refine ⟨time, Int.le_trans reached (config.sessions.now_monotone progress.reads), ?_⟩
  apply settled.progress _ progress
  rintro record record' advances (revoked | expired)
  · exact .inl (advances.revoked revoked)
  · exact .inr ((congrArg (·.expiresAt) advances.locator).trans_le expired)

theorem Retired.not_active {sessions : TakeoverSessionManager} {id : String}
    {record : TakeoverRecord} (retired : Retired config id sessions)
    (active : Active config.sessions sessions id record) : False := by
  obtain ⟨time, reached, settled⟩ := retired
  rcases settled.stored record active.stored with revoked | expired
  · rw [active.unrevoked] at revoked
    cases revoked
  · have unexpired := active.unexpired
    omega

/-- A located session is active when it is located. -/
theorem validateLocator_active (sessions : TakeoverSessionManager) (id principalBinding : String) :
    Ensures
      (validateLocator config.sessions id principalBinding) sessions
      (Guarantees config.sessions sessions fun locator after =>
        ∃ record, Active config.sessions sessions id record ∧ locator = record.locator ∧
          after = sessions.ticked) := by
  have once : Evolves config.sessions sessions sessions.ticked :=
    evolves_ticked sessions
  apply ensures_requireActive
  · exact fun _ _ evolves _ => .failed evolves
  · intro record active
    apply TakeoverSessionManager.ensures_assertPrincipal (fun _ => .failed once)
    exact fun _ => .pure (.returned once ⟨record, active, rfl, rfl⟩)

namespace ExperimentalWebSocketTakeoverSessionAuthority

variable {authority : ExperimentalWebSocketTakeoverSessionAuthority}

/-! ## The invariant -/

/-- The record is held or its session is over, and it agrees with the stored session. -/
structure Placed (config : SessionAuthorityConfig)
    (authority : ExperimentalWebSocketTakeoverSessionAuthority) (key : Nat)
    (record : WebSocketSessionRecord) : Prop where
  held : authority.sessionsById.get? record.sessionId = some key ∨
    Retired config record.sessionId authority.sessions
  expiry : TakeoverSessionManager.Settled config.sessions
    (fun stored => stored.expiresAt = record.expiresAt) record.sessionId authority.sessions
  generation : ∀ generation, record.currentGeneration = some generation →
    TakeoverSessionManager.Settled config.sessions
      (fun stored => generation ≤ stored.clientGeneration) record.sessionId authority.sessions

/-- The lease was handed out for a generation the record has reached. -/
structure LeaseOf (lease : WebSocketTakeoverLease) (record : WebSocketSessionRecord) : Prop where
  reconnects : record.reconnectHandle ≠ none
  counted : 0 ≤ lease.binding.clientGeneration
  reached : ∃ generation, record.currentGeneration = some generation ∧
    lease.binding.clientGeneration ≤ generation

/-- Of two leases over one record the newer has the higher generation. -/
def Outranks (newer older : WebSocketTakeoverLease) : Prop :=
  newer.record = older.record →
    older.binding.clientGeneration < newer.binding.clientGeneration

structure Sound (config : SessionAuthorityConfig)
    (authority : ExperimentalWebSocketTakeoverSessionAuthority) : Prop where
  sessions : TakeoverSessionManager.Invariant config.sessions authority.sessions
  held : ∀ id key, authority.sessionsById.get? id = some key →
    ∃ record, authority.records[key]? = some record ∧ record.sessionId = id
  ticketed : ∀ ticket key, authority.sessionsByTicket.get? ticket = some key →
    ∃ record, authority.records[key]? = some record ∧ record.ticket = some ticket ∧
      authority.sessionsById.get? record.sessionId = some key
  placed : ∀ key record, authority.records[key]? = some record → Placed config authority key record
  distinct : ∀ (key other : Nat) (record record' : WebSocketSessionRecord),
    authority.records[key]? = some record →
    authority.records[other]? = some record' → record.sessionId = record'.sessionId → key = other
  leased : ∀ lease ∈ authority.leases, ∃ record,
    authority.records[lease.record]? = some record ∧ LeaseOf lease record
  ordered : authority.leases.Pairwise Outranks

theorem initial_sound : Sound config initial where
  sessions := initial_invariant
  held := by
    intro id key found
    cases found
  ticketed := by
    intro ticket key found
    cases found
  placed := by
    intro key record found
    cases found
  distinct := by
    intro key other record record' found
    cases found
  leased := by
    intro lease mem
    cases mem
  ordered := List.Pairwise.nil

variable {sessions : TakeoverSessionManager} {sessionId : String}

theorem Placed.progress {key : Nat} {record : WebSocketSessionRecord}
    (placed : Placed config authority key record)
    (progress : Progress config.sessions authority.sessions sessions) :
    Placed config (authority.withSessions sessions) key record where
  held := placed.held.imp_right fun retired => retired.progress progress
  expiry := placed.expiry.progress
    (fun _ _ advances same => (congrArg (·.expiresAt) advances.locator).trans same) progress
  generation := by
    intro generation current
    apply (placed.generation generation current).progress _ progress
    intro stored stored' advances le
    exact Int.le_trans le (Int.ofNat_le.mpr advances.generation)

/-- Whatever the session manager does keeps the invariant. -/
theorem Sound.withSessions (sound : Sound config authority)
    (evolves : Evolves config.sessions authority.sessions sessions) :
    Sound config (authority.withSessions sessions) := by
  obtain ⟨invariant, progress⟩ := evolves.invariant_progress sound.sessions
  exact ⟨invariant, sound.held, sound.ticketed,
    fun key record found => (sound.placed key record found).progress progress, sound.distinct,
    sound.leased, sound.ordered⟩

/-! ## Tickets and records -/

@[simp] theorem dropTicket_records (ticket : Option String) :
    (authority.dropTicket ticket).records = authority.records := by
  cases ticket <;> rfl

@[simp] theorem dropTicket_sessionsById (ticket : Option String) :
    (authority.dropTicket ticket).sessionsById = authority.sessionsById := by
  cases ticket <;> rfl

@[simp] theorem dropTicket_sessions (ticket : Option String) :
    (authority.dropTicket ticket).sessions = authority.sessions := by
  cases ticket <;> rfl

@[simp] theorem dropTicket_leases (ticket : Option String) :
    (authority.dropTicket ticket).leases = authority.leases := by
  cases ticket <;> rfl

theorem dropTicket_found {dropped : Option String} {ticket : String} {key : Nat}
    (found : (authority.dropTicket dropped).sessionsByTicket.get? ticket = some key) :
    authority.sessionsByTicket.get? ticket = some key ∧ dropped ≠ some ticket := by
  cases dropped with
  | none => exact ⟨found, by simp⟩
  | some gone =>
      change (authority.sessionsByTicket.delete gone).get? ticket = some key at found
      rw [OrderedMap.get?_delete] at found
      split at found
      · cases found
      · rename_i other
        refine ⟨found, ?_⟩
        rintro ⟨rfl⟩
        exact other rfl

theorem Sound.dropTicket (sound : Sound config authority) (ticket : Option String) :
    Sound config (authority.dropTicket ticket) where
  sessions := by simpa using sound.sessions
  held := by simpa using sound.held
  ticketed := by
    intro other key found
    simpa using sound.ticketed other key (dropTicket_found found).1
  placed := by
    intro key record found
    rw [dropTicket_records] at found
    have placed := sound.placed key record found
    exact ⟨by simpa using placed.held, by simpa using placed.expiry,
      by simpa using placed.generation⟩
  distinct := by simpa using sound.distinct
  leased := by simpa using sound.leased
  ordered := by simpa using sound.ordered

/-- A record whose session is over can be forgotten. -/
theorem Sound.forget {key : Nat} {record : WebSocketSessionRecord}
    (sound : Sound config authority) (found : authority.records[key]? = some record)
    (retired : Retired config record.sessionId authority.sessions) :
    Sound config (authority.forget record) := by
  have dropped := sound.dropTicket record.ticket
  have kept : ∀ id other, (authority.forget record).sessionsById.get? id = some other →
      authority.sessionsById.get? id = some other :=
    fun _ _ held => get?_of_get?_delete held
  refine ⟨dropped.sessions, ?_, ?_, ?_, dropped.distinct, dropped.leased, dropped.ordered⟩
  · intro id other held
    obtain ⟨record', found', same⟩ := sound.held id other (kept id other held)
    refine ⟨record', ?_, same⟩
    change (authority.dropTicket record.ticket).records[other]? = some record'
    rw [dropTicket_records]
    exact found'
  · intro ticket other entry
    obtain ⟨entry, ne⟩ := dropTicket_found entry
    obtain ⟨record', found', current, held⟩ := sound.ticketed ticket other entry
    refine ⟨record', ?_, current, ?_⟩
    · change (authority.dropTicket record.ticket).records[other]? = some record'
      rw [dropTicket_records]
      exact found'
    · have elsewhere : record'.sessionId ≠ record.sessionId := by
        intro same
        have sameKey := sound.distinct other key record' record found' found same
        subst sameKey
        cases found'.symm.trans found
        exact ne current
      exact (get?_delete_ne _ elsewhere).trans held
  · intro other record' found'
    have placed := dropped.placed other record' found'
    refine ⟨?_, placed.expiry, placed.generation⟩
    by_cases same : record'.sessionId = record.sessionId
    · refine .inr ?_
      change Retired config record'.sessionId (authority.dropTicket record.ticket).sessions
      rw [dropTicket_sessions, same]
      exact retired
    · refine placed.held.imp_left fun held => ?_
      rw [dropTicket_sessionsById] at held
      exact (get?_delete_ne _ same).trans held

theorem Sound.forgetExpired {time : Int} (sound : Sound config authority)
    (reached : time ≤ config.sessions.now authority.sessions.reads) (key : Nat) :
    Sound config (forgetExpired time authority key) ∧
      (authority.forgetExpired time key).sessions = authority.sessions := by
  unfold ExperimentalWebSocketTakeoverSessionAuthority.forgetExpired
  split
  · rename_i record found
    split
    · rename_i expired
      refine ⟨sound.forget found ⟨time, reached, ?_⟩, dropTicket_sessions record.ticket⟩
      have expiry := (sound.placed key record found).expiry
      exact ⟨expiry.issued, fun stored at' => .inr ((expiry.stored stored at').trans_le expired)⟩
    · exact ⟨sound, rfl⟩
  · exact ⟨sound, rfl⟩

theorem Sound.pruned {time : Int} (sound : Sound config authority)
    (reached : time ≤ config.sessions.now authority.sessions.reads) :
    Sound config (authority.pruned time) ∧
      (authority.pruned time).sessions = authority.sessions := by
  unfold ExperimentalWebSocketTakeoverSessionAuthority.pruned
  generalize authority.sessionsById.values = keys
  induction keys generalizing authority with
  | nil => exact ⟨sound, rfl⟩
  | cons key keys ih =>
      obtain ⟨forgotten, same⟩ := sound.forgetExpired reached key
      obtain ⟨last, kept⟩ := ih forgotten (same ▸ reached)
      exact ⟨last, kept.trans same⟩

theorem modify_records (key : Nat) (f : WebSocketSessionRecord → WebSocketSessionRecord)
    {other : Nat} {record' : WebSocketSessionRecord}
    (found : (authority.modify key f).records[other]? = some record') :
    ∃ record, authority.records[other]? = some record ∧
      record' = if key = other then f record else record := by
  change (authority.records.modify key f)[other]? = some record' at found
  rw [getElem?_modify] at found
  obtain ⟨record, before, same⟩ := map_eq_some_iff.mp found
  exact ⟨record, before, same.symm⟩

theorem records_modify (key : Nat) (f : WebSocketSessionRecord → WebSocketSessionRecord)
    {other : Nat} {record : WebSocketSessionRecord}
    (found : authority.records[other]? = some record) :
    (authority.modify key f).records[other]? = some (if key = other then f record else record) := by
  change (authority.records.modify key f)[other]? = _
  rw [getElem?_modify, found]
  rfl

/-- A record may be rewritten as long as it keeps its session and what points at it. -/
theorem Sound.modify {key : Nat} {record : WebSocketSessionRecord}
    {f : WebSocketSessionRecord → WebSocketSessionRecord} (sound : Sound config authority)
    (found : authority.records[key]? = some record)
    (session : (f record).sessionId = record.sessionId)
    (tickets : ∀ ticket, authority.sessionsByTicket.get? ticket = some key →
      (f record).ticket = some ticket)
    (placed : Placed config authority key record → Placed config authority key (f record))
    (leases : ∀ lease ∈ authority.leases, lease.record = key → LeaseOf lease record →
      LeaseOf lease (f record)) :
    Sound config (authority.modify key f) := by
  -- Every stored record has the session it had before.
  have source : ∀ (other : Nat) (record' : WebSocketSessionRecord),
      (authority.modify key f).records[other]? = some record' →
      ∃ record, authority.records[other]? = some record ∧
        record'.sessionId = record.sessionId := by
    intro other record' found'
    obtain ⟨before, old, rfl⟩ := modify_records key f found'
    refine ⟨before, old, ?_⟩
    by_cases same : key = other
    · subst same
      cases old.symm.trans found
      rw [if_pos rfl, session]
    · rw [if_neg same]
  refine ⟨sound.sessions, ?_, ?_, ?_, ?_, ?_, sound.ordered⟩
  · intro id other held
    obtain ⟨before, old, same⟩ := sound.held id other held
    refine ⟨_, records_modify key f old, ?_⟩
    obtain ⟨before', old', kept⟩ := source other _ (records_modify key f old)
    cases old'.symm.trans old
    exact kept.trans same
  · intro ticket other entry
    obtain ⟨before, old, current, held⟩ := sound.ticketed ticket other entry
    refine ⟨_, records_modify key f old, ?_⟩
    by_cases same : key = other
    · subst same
      cases old.symm.trans found
      rw [if_pos rfl, session]
      exact ⟨tickets ticket entry, held⟩
    · rw [if_neg same]
      exact ⟨current, held⟩
  · intro other record' found'
    obtain ⟨before, old, rfl⟩ := modify_records key f found'
    have kept := sound.placed other before old
    by_cases same : key = other
    · subst same
      cases old.symm.trans found
      rw [if_pos rfl]
      obtain ⟨held, expiry, generation⟩ := placed kept
      exact ⟨held, expiry, generation⟩
    · rw [if_neg same]
      exact ⟨kept.held, kept.expiry, kept.generation⟩
  · intro one other record' record'' found' found'' same
    obtain ⟨before', old', kept'⟩ := source one record' found'
    obtain ⟨before'', old'', kept''⟩ := source other record'' found''
    exact sound.distinct one other before' before'' old' old''
      (kept'.symm.trans (same.trans kept''))
  · intro lease mem
    obtain ⟨before, old, leaseOf⟩ := sound.leased lease mem
    refine ⟨_, records_modify key f old, ?_⟩
    by_cases same : key = lease.record
    · rw [if_pos same]
      rw [← same] at old
      cases old.symm.trans found
      exact leases lease mem same.symm leaseOf
    · rw [if_neg same]
      exact leaseOf

theorem Placed.withTicket {key : Nat} {record : WebSocketSessionRecord} (ticket : Option String)
    (placed : Placed config authority key record) :
    Placed config authority key { record with ticket } :=
  ⟨placed.held, placed.expiry, placed.generation⟩

theorem LeaseOf.withTicket {lease : WebSocketTakeoverLease} {record : WebSocketSessionRecord}
    (ticket : Option String) (leaseOf : LeaseOf lease record) :
    LeaseOf lease { record with ticket } :=
  ⟨leaseOf.reconnects, leaseOf.counted, leaseOf.reached⟩

/-- A held record to which no ticket leads takes a fresh one. -/
theorem Sound.takeTicket {key : Nat} {record : WebSocketSessionRecord} {ticket : String}
    (sound : Sound config authority) (found : authority.records[key]? = some record)
    (held : authority.sessionsById.get? record.sessionId = some key)
    (unused : ∀ old, authority.sessionsByTicket.get? old ≠ some key) :
    Sound config
      { authority.modify key fun record => { record with ticket := some ticket } with
        sessionsByTicket := authority.sessionsByTicket.set ticket key } := by
  have changed := sound.modify (f := fun record => { record with ticket := some ticket }) found rfl
    (fun old entry => absurd entry (unused old)) (Placed.withTicket _)
    fun _ _ _ leaseOf => leaseOf.withTicket _
  refine ⟨changed.sessions, changed.held, ?_, ?_, changed.distinct, changed.leased,
    changed.ordered⟩
  · intro other entryKey entry
    change (authority.sessionsByTicket.set ticket key).get? other = some entryKey at entry
    rw [get?_set] at entry
    split at entry
    · rename_i same
      cases entry
      subst same
      refine ⟨_, records_modify key _ found, ?_⟩
      rw [if_pos rfl]
      exact ⟨rfl, held⟩
    · exact changed.ticketed other entryKey entry
  · intro other record' found'
    have placed := changed.placed other record' found'
    exact ⟨placed.held, placed.expiry, placed.generation⟩

/-- A session that never had a record gets its record. -/
theorem Sound.created {boundPrincipal completionCapability : String}
    {inputPolicy : WebSocketTakeoverInputPolicy} {stored : TakeoverRecord}
    (sound : Sound config authority)
    (unrecorded : ∀ (key : Nat) (old : WebSocketSessionRecord),
      authority.records[key]? = some old → old.sessionId ≠ sessionId)
    (settled : TakeoverSessionManager.Settled config.sessions
      (fun record => record.expiresAt = stored.expiresAt) sessionId
      authority.sessions) :
    Sound config
      { authority with
        records := authority.records ++ [{
          sessionId
          principalBinding := boundPrincipal
          expiresAt := stored.locator.expiresAt
          inputPolicy
          completionCapability
          ticket := none
          reconnectHandle := none
          currentClientBinding := none
          currentGeneration := none }]
        sessionsById := authority.sessionsById.set sessionId authority.records.length } := by
  generalize fresh : (⟨sessionId, boundPrincipal, stored.locator.expiresAt, inputPolicy,
    completionCapability, none, none, none, none⟩ : WebSocketSessionRecord) = record
  have mine : record.sessionId = sessionId := by rw [← fresh]
  have kept : ∀ (key : Nat) (old : WebSocketSessionRecord), authority.records[key]? = some old →
      (authority.records ++ [record])[key]? = some old := by
    intro key old found
    obtain ⟨below, _⟩ := List.getElem?_eq_some_iff.mp found
    rw [getElem?_append_left below]
    exact found
  have source : ∀ (key : Nat) (old : WebSocketSessionRecord),
      (authority.records ++ [record])[key]? = some old →
      authority.records[key]? = some old ∨ key = authority.records.length ∧ old = record := by
    intro key old found
    rw [getElem?_append] at found
    split at found
    · exact .inl found
    · rename_i reached
      obtain ⟨below, same⟩ := List.getElem?_eq_some_iff.mp found
      have only : key - authority.records.length = 0 := by
        simp only [length_singleton] at below
        omega
      refine .inr ⟨by omega, ?_⟩
      simpa [only] using same.symm
  refine ⟨sound.sessions, ?_, ?_, ?_, ?_, ?_, sound.ordered⟩
  · intro id key held
    change (authority.sessionsById.set sessionId authority.records.length).get? id = some key
      at held
    rw [get?_set] at held
    split at held
    · rename_i same
      cases held
      exact ⟨record, by simp, mine.trans same.symm⟩
    · obtain ⟨old, found, same⟩ := sound.held id key held
      exact ⟨old, kept key old found, same⟩
  · intro ticket key entry
    obtain ⟨old, found, current, held⟩ := sound.ticketed ticket key entry
    refine ⟨old, kept key old found, current, ?_⟩
    exact (get?_set_ne _ _ (unrecorded key old found)).trans held
  · intro key old found
    rcases source key old found with before | ⟨rfl, rfl⟩
    · have placed := sound.placed key old before
      refine ⟨placed.held.imp_left fun held => ?_, placed.expiry, placed.generation⟩
      exact (get?_set_ne _ _ (unrecorded key old before)).trans held
    · refine ⟨.inl ?_, ?_, ?_⟩
      · rw [mine]
        exact get?_set_self ..
      · rw [mine, ← fresh]
        exact settled
      · intro generation current
        rw [← fresh] at current
        cases current
  · intro key key' old old' found found' same
    rcases source key old found with before | ⟨rfl, rfl⟩
    · rcases source key' old' found' with before' | ⟨rfl, rfl⟩
      · exact sound.distinct key key' old old' before before' same
      · exact absurd (same.trans mine) (unrecorded key old before)
    · rcases source key' old' found' with before' | ⟨rfl, rfl⟩
      · exact absurd (same.symm.trans mine) (unrecorded key' old' before')
      · rfl
  · intro lease mem
    obtain ⟨old, found, leaseOf⟩ := sound.leased lease mem
    exact ⟨old, kept _ old found, leaseOf⟩

/-- An active session without a held record never had one. -/
theorem Sound.unrecorded {stored : TakeoverRecord} (sound : Sound config authority)
    (active : Active config.sessions authority.sessions sessionId stored)
    (absent : authority.sessionsById.get? sessionId = none) (key : Nat)
    (old : WebSocketSessionRecord) (found : authority.records[key]? = some old) :
    old.sessionId ≠ sessionId := by
  intro same
  rcases (sound.placed key old found).held with held | retired
  · rw [same, absent] at held
    cases held
  · rw [same] at retired
    exact retired.not_active active

/-- A grant above the generations of all earlier leases makes the next lease of the record. -/
theorem Sound.granted {key : Nat} {record : WebSocketSessionRecord} {grant : TakeoverGrant}
    (sound : Sound config authority) (found : authority.records[key]? = some record)
    (granted : Granted config.sessions record.sessionId grant
      authority.sessions)
    (above : ∀ lease ∈ authority.leases, lease.record = key →
      lease.binding.clientGeneration < grant.clientGeneration) :
    Sound config
      { authority.modify key fun record => record.granted grant with
        leases := ⟨key, bindingOf grant⟩ :: authority.leases } := by
  have changed := sound.modify (f := fun record => record.granted grant) found rfl
    (fun ticket entry => by
      obtain ⟨current, at', same, _⟩ := sound.ticketed ticket key entry
      cases at'.symm.trans found
      exact same)
    (fun placed => by
      refine ⟨placed.held, placed.expiry, ?_⟩
      rintro _ ⟨⟩
      obtain ⟨stored, at', issued⟩ := granted
      apply settled_of_stored sound.sessions at'
      exact Int.ofNat_le.mpr (Nat.le_of_eq issued.generation))
    (fun lease mem mine leaseOf =>
      ⟨by simp [WebSocketSessionRecord.granted], leaseOf.counted, grant.clientGeneration, rfl,
        Int.le_of_lt (above lease mem mine)⟩)
  refine ⟨changed.sessions, changed.held, changed.ticketed, ?_, changed.distinct, ?_, ?_⟩
  · intro other record' found'
    have placed := changed.placed other record' found'
    exact ⟨placed.held, placed.expiry, placed.generation⟩
  · intro lease mem
    rcases mem_cons.mp mem with rfl | older
    · refine ⟨_, records_modify key _ found, ?_⟩
      rw [if_pos rfl]
      exact ⟨by simp [WebSocketSessionRecord.granted], Int.natCast_nonneg _,
        grant.clientGeneration, rfl, Int.le_refl _⟩
    · exact changed.leased lease older
  · refine pairwise_cons.mpr ⟨?_, sound.ordered⟩
    exact fun older mem same => above older mem same.symm

/-! ## Every call keeps the invariant -/

section Rules

variable {α β : Type}

/-- Whatever the outcome, the invariant holds afterwards. -/
def Keeps (config : SessionAuthorityConfig) (_ : Except AuthorityError α)
    (after : ExperimentalWebSocketTakeoverSessionAuthority) : Prop :=
  Sound config after

theorem Sound.counted (sound : Sound config authority) (tickets bindings : Nat) :
    Sound config
      { authority with ticketsCreated := tickets, clientBindingsCreated := bindings } :=
  ⟨sound.sessions, sound.held, sound.ticketed,
    fun key record found =>
      have placed := sound.placed key record found
      ⟨placed.held, placed.expiry, placed.generation⟩,
    sound.distinct, sound.leased, sound.ordered⟩

/-- A call of the manager leaves the maps, the records and the leases alone. -/
theorem ensures_last {action : SessionM α}
    {held : Except TakeoverSessionError α → TakeoverSessionManager → Prop}
    {post : Except AuthorityError α → ExperimentalWebSocketTakeoverSessionAuthority → Prop}
    (spec : Ensures action authority.sessions held)
    (passed : ∀ result sessions, held result sessions →
      post (result.mapError .takeover) (authority.withSessions sessions)) :
    Ensures (onSessions action) authority post := by
  unfold Ensures onSessions
  unfold Ensures at spec
  cases outcome : action authority.sessions with
  | mk result sessions =>
      rw [outcome] at spec
      have holds := passed result sessions spec
      cases result with
      | error error => exact holds
      | ok value => exact holds

variable {post : Except AuthorityError β → ExperimentalWebSocketTakeoverSessionAuthority → Prop}

theorem ensures_onSessions {action : SessionM α} {next : α → AuthorityM β}
    {facts : α → TakeoverSessionManager → Prop}
    (spec : Ensures action authority.sessions
      (Guarantees config.sessions authority.sessions facts))
    (failed : ∀ error sessions, Evolves config.sessions authority.sessions sessions →
      post (.error error) (authority.withSessions sessions))
    (passed : ∀ value sessions, Evolves config.sessions authority.sessions sessions →
      facts value sessions →
      Ensures (next value) (authority.withSessions sessions) post) :
    Ensures (onSessions action >>= next) authority post := by
  have lifted : Ensures (onSessions action) authority fun result after =>
      ∃ sessions, after = authority.withSessions sessions ∧
        Evolves config.sessions authority.sessions sessions ∧
        ∀ value, result = .ok value → facts value sessions := by
    apply ensures_last spec
    rintro (error | value) sessions ⟨evolves, holds⟩
    · exact ⟨sessions, rfl, evolves, by simp [Except.mapError]⟩
    · refine ⟨sessions, rfl, evolves, ?_⟩
      rintro _ ⟨⟩
      exact holds value rfl
  apply lifted.bind
  · rintro error after ⟨sessions, rfl, evolves, _⟩
    exact failed error sessions evolves
  · rintro value after ⟨sessions, rfl, evolves, holds⟩
    exact passed value sessions evolves (holds value rfl)

theorem ensures_createTicket {next : String → AuthorityM β} (sound : Sound config authority)
    (passed : ∀ ticket tickets, Sound config { authority with ticketsCreated := tickets } →
      Ensures (next ticket) { authority with ticketsCreated := tickets } post) :
    Ensures (createTicket config >>= next) authority post :=
  passed (config.createTicket authority.ticketsCreated) (authority.ticketsCreated + 1)
    (sound.counted _ _)

theorem ensures_createClientBinding {next : String → AuthorityM β} (sound : Sound config authority)
    (passed : ∀ clientBinding bindings,
      Sound config { authority with clientBindingsCreated := bindings } →
      Ensures (next clientBinding) { authority with clientBindingsCreated := bindings }
        post) :
    Ensures (createClientBinding config >>= next) authority post :=
  passed (config.createClientBinding authority.clientBindingsCreated)
    (authority.clientBindingsCreated + 1) (sound.counted _ _)

theorem ensures_recordAt {key : Nat} {next : WebSocketSessionRecord → AuthorityM β}
    (missing : ∀ error, post (.error error) authority)
    (found : ∀ record, authority.records[key]? = some record →
      Ensures (next record) authority post) :
    Ensures (recordAt key >>= next) authority post := by
  have spec : Ensures (recordAt key) authority fun result after =>
      after = authority ∧ ∀ record, result = .ok record →
        authority.records[key]? = some record := by
    apply reading
    split
    · rename_i record stored
      refine .pure ⟨rfl, ?_⟩
      rintro _ ⟨⟩
      exact stored
    · exact .throwing ⟨rfl, by simp⟩
  apply spec.bind
  · rintro error after ⟨rfl, _⟩
    exact missing error
  · rintro record after ⟨rfl, stored⟩
    exact found record (stored record rfl)

theorem ensures_now {next : Int → AuthorityM β}
    (passed : Ensures (next (config.sessions.now authority.sessions.reads))
      (authority.withSessions authority.sessions.ticked) post) :
    Ensures (now config >>= next) authority post :=
  passed

theorem ensures_pruneExpired {next : Unit → AuthorityM β} (sound : Sound config authority)
    (passed : ∀ after, Sound config after → Ensures (next ()) after post) :
    Ensures (pruneExpired config >>= next) authority post := by
  have ticked := sound.withSessions (evolves_ticked authority.sessions)
  have reached : config.sessions.now authority.sessions.reads ≤
      config.sessions.now (authority.withSessions authority.sessions.ticked).sessions.reads :=
    config.sessions.now_monotone (Nat.le_succ _)
  exact passed _ (ticked.pruned reached).1

end Rules

/-- The record to give a ticket to is held. -/
def HeldKey (result : Except AuthorityError Nat)
    (after : ExperimentalWebSocketTakeoverSessionAuthority) : Prop :=
  ∀ key, result = .ok key → ∃ record, after.records[key]? = some record ∧
    after.sessionsById.get? record.sessionId = some key

theorem createRecord_keeps {stored : TakeoverRecord} (boundPrincipal : String)
    (inputPolicy : WebSocketTakeoverInputPolicy) (sound : Sound config authority)
    (unrecorded : ∀ (key : Nat) (old : WebSocketSessionRecord),
      authority.records[key]? = some old → old.sessionId ≠ sessionId)
    (settled : TakeoverSessionManager.Settled config.sessions
      (fun record => record.expiresAt = stored.expiresAt) sessionId
      authority.sessions) :
    Ensures
      (createRecord config stored.locator sessionId boundPrincipal inputPolicy) authority
      fun result after => Sound config after ∧ HeldKey result after := by
  apply ensures_onSessions
    (TakeoverSessionManager.issueCompletionCapability_guarantees _ sessionId boundPrincipal)
  · intro error sessions evolves
    exact ⟨sound.withSessions evolves, fun _ no => by cases no⟩
  · intro completionCapability sessions evolves _
    have progress := (evolves.invariant_progress sound.sessions).2
    apply reading
    apply updating
    refine .pure ⟨?_, ?_⟩
    · refine (sound.withSessions evolves).created unrecorded ?_
      exact settled.progress
        (fun _ _ advances same => (congrArg (·.expiresAt) advances.locator).trans same) progress
    · rintro _ ⟨⟩
      refine ⟨_, getElem?_concat_length, ?_⟩
      exact get?_set_self ..

theorem recordFor_keeps {stored : TakeoverRecord} (boundPrincipal : String)
    (inputPolicy : WebSocketTakeoverInputPolicy) (sound : Sound config authority)
    (unrecorded : authority.sessionsById.get? sessionId = none →
      ∀ (key : Nat) (old : WebSocketSessionRecord),
        authority.records[key]? = some old → old.sessionId ≠ sessionId)
    (settled : TakeoverSessionManager.Settled config.sessions
      (fun record => record.expiresAt = stored.expiresAt) sessionId
      authority.sessions) :
    Ensures
      (recordFor config stored.locator sessionId boundPrincipal inputPolicy) authority
      fun result after => Sound config after ∧ HeldKey result after := by
  apply reading
  split
  · rename_i key held
    apply ensures_recordAt
    · exact fun _ => ⟨sound, fun _ no => by cases no⟩
    · intro record found
      apply Ensures.require
      · exact fun _ => ⟨sound, fun _ no => by cases no⟩
      · intro _
        refine .pure ⟨sound, ?_⟩
        rintro _ ⟨⟩
        obtain ⟨current, at', same⟩ := sound.held sessionId key held
        exact ⟨current, at', same ▸ held⟩
  · rename_i absent
    exact createRecord_keeps boundPrincipal inputPolicy sound (unrecorded absent) settled

theorem rotateTicket_keeps {key : Nat} {record : WebSocketSessionRecord}
    (sound : Sound config authority) (found : authority.records[key]? = some record)
    (held : authority.sessionsById.get? record.sessionId = some key) :
    Ensures (rotateTicket config key) authority (Keeps config) := by
  apply ensures_recordAt (fun _ => sound)
  intro current at'
  cases at'.symm.trans found
  apply updating
  have dropped := sound.dropTicket record.ticket
  -- The one entry that led to the record was the one of its ticket.
  have unused : ∀ old, (authority.dropTicket record.ticket).sessionsByTicket.get? old ≠ some key := by
    intro old entry
    obtain ⟨entry, ne⟩ := dropTicket_found entry
    obtain ⟨current, at', same, _⟩ := sound.ticketed old key entry
    cases at'.symm.trans found
    exact ne same
  apply ensures_createTicket dropped
  intro ticket tickets counted
  apply reading
  apply Ensures.require (fun _ => counted)
  intro _
  apply updating
  apply Ensures.pure
  refine @Sound.takeTicket _ _ _ record _ counted ?_ ?_ unused
  · exact (congrArg (·[key]?) (dropTicket_records record.ticket)).trans found
  · exact (congrArg (·.get? record.sessionId) (dropTicket_sessionsById record.ticket)).trans held

theorem issueHandshakeTicket_keeps (sessionId boundPrincipal : String) (inputPolicy : JsonValue)
    (sound : Sound config authority) :
    Ensures (issueHandshakeTicket config sessionId boundPrincipal inputPolicy)
      authority (Keeps config) := by
  have validated : Ensures (validateInputPolicy inputPolicy) authority
      fun _ after => after = authority := by
    unfold validateInputPolicy
    split
    · exact .pure rfl
    · exact .throwing rfl
  apply validated.bind
  · rintro error after rfl
    exact sound
  · rintro policy after rfl
    apply ensures_pruneExpired sound
    intro pruned sound
    apply ensures_onSessions (validateLocator_active _ sessionId boundPrincipal)
    · exact fun error sessions evolves => sound.withSessions evolves
    · rintro locator sessions evolves ⟨stored, active, rfl, rfl⟩
      have after := sound.withSessions evolves
      apply (recordFor_keeps boundPrincipal policy after (sound.unrecorded active) ?_).bind
      · exact fun error last holds => holds.1
      · intro key last holds
        obtain ⟨record, found, held⟩ := holds.2 key rfl
        exact rotateTicket_keeps holds.1 found held
      · exact settled_of_stored after.sessions active.stored rfl

theorem takeGrant_guarantees (record : WebSocketSessionRecord) (nextClientBinding : String)
    (sessions : TakeoverSessionManager) :
    Ensures (takeGrant config record nextClientBinding) sessions
      (Guarantees config.sessions sessions fun grant after =>
        Granted config.sessions record.sessionId grant after ∧
          (record.reconnectHandle ≠ none →
            GenerationBumped sessions after record.sessionId)) := by
  unfold takeGrant
  split
  · rename_i unclaimed
    apply (TakeoverSessionManager.claimClient_guarantees _ _ _ _).mono
    intro result after holds
    refine ⟨holds.1, fun grant returned => ⟨holds.2 grant returned, ?_⟩⟩
    exact fun claimed => absurd unclaimed claimed
  · apply (TakeoverSessionManager.reconnectClient_guarantees _ _ _ _ _).mono
    intro result after holds
    refine ⟨holds.1, fun grant returned => ?_⟩
    obtain ⟨_, bumped, granted⟩ := holds.2 grant returned
    exact ⟨granted, fun _ => bumped⟩

theorem acceptRecord_keeps {key : Nat} {record : WebSocketSessionRecord}
    (sound : Sound config authority) (found : authority.records[key]? = some record) :
    Ensures (acceptRecord config key record) authority (Keeps config) := by
  apply ensures_createClientBinding sound
  intro clientBinding bindings counted
  apply Ensures.require (fun _ => counted)
  intro _
  apply ensures_onSessions (takeGrant_guarantees record _ _)
  · exact fun error sessions evolves => counted.withSessions evolves
  · rintro grant sessions evolves ⟨granted, bumps⟩
    apply updating
    apply Ensures.pure
    refine (counted.withSessions evolves).granted found granted ?_
    rintro lease mem rfl
    obtain ⟨current, at', leaseOf⟩ := sound.leased lease mem
    cases at'.symm.trans found
    -- A leased record reconnects, and the generation it reached is below the new one.
    obtain ⟨generation, currentGeneration, le⟩ := leaseOf.reached
    obtain ⟨before, after, stored, stored', bumped⟩ := bumps leaseOf.reconnects
    obtain ⟨same, at'', issued⟩ := granted
    cases at''.symm.trans stored'
    have settled := (sound.placed _ record found).generation generation currentGeneration
    have reached := settled.stored before stored
    have raised : grant.clientGeneration = before.clientGeneration + 1 :=
      issued.generation.trans bumped
    omega

theorem accept_keeps (sessionId ticket : String) (sound : Sound config authority) :
    Ensures (accept config sessionId ticket) authority (Keeps config) := by
  apply ensures_pruneExpired sound
  intro pruned sound
  apply reading
  split
  · exact .throwing sound
  · rename_i key entry
    apply ensures_recordAt (fun _ => sound)
    intro record found
    apply Ensures.require (fun _ => sound)
    intro _
    apply ensures_now
    have ticked := sound.withSessions (evolves_ticked pruned.sessions)
    apply Ensures.require (fun _ => ticked)
    exact fun _ => acceptRecord_keeps ticked found

theorem invalidateTicket_keeps (ticket : String) (sound : Sound config authority) :
    Ensures (invalidateTicket ticket) authority (Keeps config) := by
  apply reading
  split
  · exact .pure sound
  · rename_i key entry
    obtain ⟨record, found, current, held⟩ := sound.ticketed ticket key entry
    apply Ensures.update
    have dropped := sound.dropTicket (some ticket)
    refine @Sound.modify _ _ _ record _ dropped found ?_ ?_ ?_ ?_
    · rw [if_pos current]
    · intro other entry'
      obtain ⟨entry', ne⟩ := dropTicket_found entry'
      obtain ⟨record', found', same, _⟩ := sound.ticketed other key entry'
      cases found'.symm.trans found
      exact absurd (current.symm.trans same) ne
    · rw [if_pos current]
      exact Placed.withTicket none
    · rw [if_pos current]
      exact fun _ _ _ leaseOf => leaseOf.withTicket none

theorem revoke_retires (id : String) (sessions : TakeoverSessionManager) :
    Ensures (TakeoverSessionManager.revoke id) sessions fun _ after =>
      Evolves config.sessions sessions after ∧ Revoked id after := by
  apply reading
  split
  · rename_i absent
    refine .pure ⟨.refl sessions, fun record stored => ?_⟩
    rw [absent] at stored
    cases stored
  · rename_i record stored
    refine .update ⟨(Evolves.refl sessions).write stored .revoke, fun current found => ?_⟩
    cases (get?_set_self ..).symm.trans found
    rfl

theorem forget_withSessions (record : WebSocketSessionRecord) (sessions : TakeoverSessionManager) :
    (authority.forget record).withSessions sessions =
      (authority.withSessions sessions).forget record := by
  unfold forget
  cases record.ticket <;> rfl

/-- Forgetting touches no session, so it may as well follow the revocation. -/
theorem revokeSession_keeps (sessionId : String) (sound : Sound config authority) :
    Ensures (revokeSession sessionId) authority (Keeps config) := by
  apply reading
  split
  · apply ensures_last (@revoke_retires config sessionId _)
    exact fun _ sessions holds => sound.withSessions holds.1
  · rename_i key held
    apply ensures_recordAt (fun _ => sound)
    intro record found
    obtain ⟨current, at', same⟩ := sound.held sessionId key held
    cases at'.symm.trans found
    apply updating
    apply ensures_last (@revoke_retires config sessionId _)
    rintro _ sessions ⟨evolves, revoked⟩
    have same' : (authority.forget record).sessions = authority.sessions :=
      dropTicket_sessions record.ticket
    rw [same'] at evolves
    have after := sound.withSessions evolves
    have kept := (after.placed key record found).expiry
    change Sound config _
    rw [forget_withSessions]
    refine after.forget found ⟨_, Int.le_refl _, kept.issued, fun stored at'' => .inl ?_⟩
    exact revoked stored (same ▸ at'')

theorem beginUse_keeps (lease : WebSocketTakeoverLease) (sound : Sound config authority) :
    Ensures (beginUse config lease) authority (Keeps config) := by
  apply ensures_recordAt (fun _ => sound)
  intro record found
  apply Ensures.require (fun _ => sound)
  intro _
  apply ensures_onSessions (TakeoverSessionManager.beginBoundUse_guarantees _ _ _ _ _)
  · exact fun error sessions evolves => sound.withSessions evolves
  · exact fun use sessions evolves _ => .pure (sound.withSessions evolves)

theorem endUse_keeps (lease : WebSocketTakeoverLease) (sound : Sound config authority) :
    Ensures (endUse config lease) authority (Keeps config) := by
  apply ensures_recordAt (fun _ => sound)
  intro record found
  apply ensures_last (endUse_guarantees _ _ _ _ _)
  exact fun _ sessions holds => sound.withSessions holds.1

theorem complete_keeps (lease : WebSocketTakeoverLease) (sound : Sound config authority) :
    Ensures (complete config lease) authority (Keeps config) := by
  apply ensures_recordAt (fun _ => sound)
  intro record found
  apply Ensures.require (fun _ => sound)
  intro _
  apply ensures_onSessions (complete_guarantees _ _ _ _)
  · exact fun error sessions evolves => sound.withSessions evolves
  · rintro completion sessions evolves ⟨stored, at', revoked⟩
    have after := sound.withSessions evolves
    apply updating
    apply Ensures.pure
    refine after.forget found ⟨_, Int.le_refl _, ?_⟩
    exact settled_of_stored after.sessions at' (.inl revoked)

theorem release_keeps (lease : WebSocketTakeoverLease) (sound : Sound config authority) :
    Ensures (release config lease) authority (Keeps config) := by
  apply ensures_recordAt (fun _ => sound)
  intro record found
  split
  · have spec := @TakeoverSessionManager.releaseClientGeneration_guarantees
      config.sessions authority.sessions record.sessionId record.principalBinding
      lease.binding.clientBinding lease.binding.clientGeneration.toNat
    refine @ensures_last _ _ _ (fun _ sessions =>
      Evolves config.sessions authority.sessions sessions) _ ?_ ?_
    · unfold Ensures tolerant
      split
      · rename_i error after outcome
        have evolves := spec.1
        rw [outcome] at evolves
        split
        · exact evolves
        · exact evolves
      · exact spec.1
    · exact fun _ sessions evolves => sound.withSessions evolves
  · exact .pure sound

theorem perform_keeps (op : AuthorityOp) (sound : Sound config authority) :
    Ensures (perform config op) authority (Keeps config) := by
  cases op with
  | issueHandshakeTicket sessionId boundPrincipal inputPolicy =>
      exact (issueHandshakeTicket_keeps sessionId boundPrincipal inputPolicy sound).mapping
  | accept sessionId ticket => exact (accept_keeps sessionId ticket sound).mapping
  | beginUse lease => exact (beginUse_keeps lease sound).mapping
  | endUse lease => exact (endUse_keeps lease sound).mapping
  | complete lease => exact (complete_keeps lease sound).mapping
  | release lease => exact (release_keeps lease sound).mapping
  | invalidateTicket ticket => exact (invalidateTicket_keeps ticket sound).mapping
  | revokeSession sessionId => exact (revokeSession_keeps sessionId sound).mapping
  | session op =>
      have kept : Ensures
          (onSessions (TakeoverSessionManager.perform config.sessions op)) authority
          (Keeps config) := by
        apply ensures_last (perform_guarantees _ op)
        exact fun _ sessions holds => sound.withSessions holds.1
      exact kept.mapping

theorem Step.sound {first last : ExperimentalWebSocketTakeoverSessionAuthority}
    {call : AuthorityCall} (step : Step config first call last) (sound : Sound config first) :
    Sound config last := by
  have kept := perform_keeps call.1 sound
  have outcome : perform config call.1 first = (call.2, last) := step.1
  unfold Ensures Keeps at kept
  rwa [outcome] at kept

theorem run_sound {calls : List AuthorityCall}
    (run : Run (Step config) initial calls authority) : Sound config authority :=
  run.invariant Step.sound initial_sound

/-! ## What a lease can do -/

/-- The stored session accepts a use by the lease at that time. -/
def acceptsUse (time : Int) (record : WebSocketSessionRecord) (binding : WebSocketTakeoverBinding)
    (stored : TakeoverRecord) : Bool :=
  (!stored.revoked && decide (time < stored.expiresAt))
    && (same stored.principalBinding record.principalBinding
      && ((shaped 24 128 binding.clientBinding && stored.boundTo binding.clientBinding)
        && (!stored.released && stored.clientGeneration == binding.clientGeneration.toNat)))

/-- `beginUse` of the lease succeeds when the clock reads that time. -/
def usableAt (authority : ExperimentalWebSocketTakeoverSessionAuthority) (time : Int)
    (lease : WebSocketTakeoverLease) : Bool :=
  (authority.records[lease.record]?).any fun record =>
    record.isCurrent lease.binding
      && (authority.sessions.records.get? record.sessionId).any (acceptsUse time record lease.binding)

def inFlight (authority : ExperimentalWebSocketTakeoverSessionAuthority)
    (lease : WebSocketTakeoverLease) : Option Nat :=
  (authority.records[lease.record]?).bind fun record =>
    (authority.sessions.records.get? record.sessionId).map (·.inFlight)

/-- The action changes nothing and succeeds exactly when the test holds. -/
def Tests (action : SessionM Unit) (sessions : TakeoverSessionManager) (test : Bool) : Prop :=
  Ensures action sessions fun result after =>
    after = sessions ∧ result.isOk = test

theorem require_tests (test : Bool) (error : TakeoverSessionError)
    (sessions : TakeoverSessionManager) : Tests (StateExcept.require test error) sessions test := by
  cases test with
  | false => exact ⟨rfl, rfl⟩
  | true => exact ⟨rfl, rfl⟩

/-- A test in front of a computation is one more conjunct of its success. -/
theorem Tests.isOk {α : Type} {action : SessionM Unit} {next : Unit → SessionM α}
    {test accepted : Bool} (tests : Tests action sessions test)
    (passed : Ensures (next ()) sessions fun result _ => result.isOk = accepted) :
    Ensures (action >>= next) sessions
      fun result _ => result.isOk = (test && accepted) := by
  apply Ensures.bind tests
  · rintro error after ⟨rfl, failed⟩
    rw [← failed]
    rfl
  · rintro value after ⟨rfl, met⟩
    rw [← met]
    exact passed

theorem Tests.isOk_last {α : Type} {action : SessionM Unit} {next : Unit → SessionM α}
    {test : Bool} (tests : Tests action sessions test)
    (passed : Ensures (next ()) sessions fun result _ => result.isOk = true) :
    Ensures (action >>= next) sessions fun result _ => result.isOk = test := by
  apply (tests.isOk passed).mono
  intro result after holds
  rw [holds, Bool.and_true]

theorem assertClient_tests (stored : TakeoverRecord) (clientBinding : String)
    (sessions : TakeoverSessionManager) :
    Tests (TakeoverSessionManager.assertClient stored clientBinding) sessions
      (shaped 24 128 clientBinding && stored.boundTo clientBinding) := by
  unfold TakeoverSessionManager.assertClient TakeoverSessionManager.assertClientBindingShape
  cases shape : shaped 24 128 clientBinding with
  | false => exact ⟨rfl, rfl⟩
  | true => exact require_tests (stored.boundTo clientBinding) .unavailable sessions

theorem requireActive_isOk {α : Type} {id : String} {next : TakeoverRecord → SessionM α}
    {accepted : TakeoverRecord → Bool}
    (passed : ∀ stored, Ensures (next stored) sessions.ticked
      fun result _ => result.isOk = accepted stored) :
    Ensures (TakeoverSessionManager.requireActive config.sessions id >>= next) sessions
      fun result _ => result.isOk = (sessions.records.get? id).any fun stored =>
        (!stored.revoked && decide (config.sessions.now sessions.reads < stored.expiresAt))
          && accepted stored := by
  have spec : Ensures (TakeoverSessionManager.requireActive config.sessions id) sessions
      fun result after => match result with
        | .error _ => (sessions.records.get? id).any (fun stored =>
            (!stored.revoked && decide (config.sessions.now sessions.reads < stored.expiresAt))
              && accepted stored) = false
        | .ok stored => after = sessions.ticked ∧ sessions.records.get? id = some stored ∧
            (!stored.revoked && decide (config.sessions.now sessions.reads < stored.expiresAt))
              = true := by
    apply reading
    split
    · rename_i absent
      refine .throwing ?_
      rw [absent]
      rfl
    · rename_i stored found
      apply Ensures.require
      · intro revoked
        rw [found, any_some, revoked, Bool.false_and, Bool.false_and]
      · intro unrevoked
        apply TakeoverSessionManager.ensures_now
        apply Ensures.require
        · intro expired
          rw [found, any_some, expired, Bool.and_false, Bool.false_and]
        · intro unexpired
          refine .pure ⟨rfl, found, ?_⟩
          rw [unrevoked, unexpired]
          rfl
  apply spec.bind
  · rintro error after failed
    exact failed.symm
  · rintro stored after ⟨rfl, found, active⟩
    rw [found, any_some, active, Bool.true_and]
    exact passed stored

theorem beginBoundUse_isOk (sessions : TakeoverSessionManager) (record : WebSocketSessionRecord)
    (binding : WebSocketTakeoverBinding) :
    Ensures (TakeoverSessionManager.beginBoundUse config.sessions record.sessionId
        record.principalBinding binding.clientBinding binding.clientGeneration.toNat) sessions
      fun result _ => result.isOk = (sessions.records.get? record.sessionId).any
        (acceptsUse (config.sessions.now sessions.reads) record binding) := by
  apply requireActive_isOk
  intro stored
  apply Tests.isOk (require_tests _ _ _)
  apply Tests.isOk (assertClient_tests _ _ _)
  apply Tests.isOk_last (require_tests _ _ _)
  apply TakeoverSessionManager.ensures_now
  apply ensures_putRecord
  exact .pure rfl

theorem ensures_stored {β : Type} {key : Nat} {record : WebSocketSessionRecord}
    {next : WebSocketSessionRecord → AuthorityM β}
    {post : Except AuthorityError β → ExperimentalWebSocketTakeoverSessionAuthority → Prop}
    (found : authority.records[key]? = some record)
    (holds : Ensures (next record) authority post) :
    Ensures (recordAt key >>= next) authority post := by
  have spec : Ensures (recordAt key) authority fun result after =>
      result = .ok record ∧ after = authority := by
    apply reading
    rw [found]
    exact .pure ⟨rfl, rfl⟩
  apply spec.bind
  · rintro error after ⟨no, _⟩
    cases no
  · rintro value after ⟨same, rfl⟩
    cases same
    exact holds

/-- The test is the one `beginUse` makes. -/
theorem beginUse_isOk (lease : WebSocketTakeoverLease) :
    (beginUse config lease authority).1.isOk =
      authority.usableAt (config.sessions.now authority.sessions.reads) lease := by
  have spec : Ensures (beginUse config lease) authority fun result _ =>
      result.isOk = authority.usableAt (config.sessions.now authority.sessions.reads) lease := by
    unfold usableAt
    cases found : authority.records[lease.record]? with
    | none =>
        apply ensures_recordAt (fun _ => rfl)
        intro record stored
        rw [found] at stored
        cases stored
    | some record =>
        apply ensures_stored found
        rw [any_some]
        apply Ensures.require
        · intro stale
          rw [stale, Bool.false_and]
          rfl
        · intro current
          rw [current, Bool.true_and]
          have used : Ensures (onSessions (TakeoverSessionManager.beginBoundUse
              config.sessions record.sessionId record.principalBinding lease.binding.clientBinding
              lease.binding.clientGeneration.toNat)) authority fun result _ =>
              result.isOk = (authority.sessions.records.get? record.sessionId).any
                (acceptsUse (config.sessions.now authority.sessions.reads) record
                  lease.binding) := by
            apply ensures_last (beginBoundUse_isOk authority.sessions record lease.binding)
            rintro (error | use) sessions holds
            · exact holds
            · exact holds
          apply used.bind
          · exact fun _ _ failed => failed
          · exact fun _ _ passed => .pure passed
  exact spec

/-! ## Superseded leases -/

/-- The session the lease is for. -/
def sessionOf (authority : ExperimentalWebSocketTakeoverSessionAuthority)
    (lease : WebSocketTakeoverLease) : Option String :=
  (authority.records[lease.record]?).map (·.sessionId)

/-- At no time has the change made the lease usable or unusable, nor its uses more or fewer. -/
def Unaffected (before after : ExperimentalWebSocketTakeoverSessionAuthority)
    (lease : WebSocketTakeoverLease) : Prop :=
  (∀ time, after.usableAt time lease = before.usableAt time lease) ∧
    after.inFlight lease = before.inFlight lease

/-- The older lease can neither be used nor completed, and giving it up does not concern the
newer one. -/
structure Fences (config : SessionAuthorityConfig)
    (authority : ExperimentalWebSocketTakeoverSessionAuthority)
    (newer older : WebSocketTakeoverLease) : Prop where
  beginUse : beginUse config older authority = (.error (.takeover .staleGeneration), authority)
  complete : complete config older authority = (.error (.takeover .staleGeneration), authority)
  endUse : Unaffected authority (endUse config older authority).2 newer
  release : Unaffected authority (release config older authority).2 newer

theorem unaffected_of_records {before after : ExperimentalWebSocketTakeoverSessionAuthority}
    (records : after.records = before.records)
    (sessions : after.sessions.records = before.sessions.records)
    (lease : WebSocketTakeoverLease) : Unaffected before after lease := by
  unfold Unaffected usableAt inFlight
  rw [records, sessions]
  exact ⟨fun _ => rfl, rfl⟩

/-- Ending a use at a generation the session is past writes nothing. -/
theorem endUse_superseded {id principalBinding : String} {clientBinding : String} {generation : Nat}
    (past : ∀ stored, sessions.records.get? id = some stored →
      stored.clientGeneration ≠ generation) :
    Ensures (TakeoverSessionManager.endUse config.sessions id principalBinding
      clientBinding generation) sessions fun _ after => after.records = sessions.records := by
  apply reading
  split
  · exact .pure rfl
  · rename_i stored found
    split
    · exact .pure rfl
    · apply TakeoverSessionManager.ensures_now
      split
      · exact .pure rfl
      · rename_i current
        have reached := past stored found
        simp [reached] at current

theorem refuses_stale {α : Type} {record : WebSocketSessionRecord}
    {binding : WebSocketTakeoverBinding} {next : Unit → AuthorityM α}
    (stale : record.isCurrent binding = false) :
    Ensures (assertRecordBinding record binding >>= next) authority
      fun result after => (result, after) = (.error (.takeover .staleGeneration), authority) := by
  unfold assertRecordBinding
  rw [stale]
  exact .throwing rfl

/-- A lease under a newer one of the same session. -/
theorem Sound.fences {newer older : WebSocketTakeoverLease} (sound : Sound config authority)
    (newerHanded : newer ∈ authority.leases) (olderHanded : older ∈ authority.leases)
    (outranks : Outranks newer older)
    (same : authority.sessionOf newer = authority.sessionOf older) :
    Fences config authority newer older := by
  obtain ⟨record, found, leaseOf⟩ := sound.leased newer newerHanded
  obtain ⟨record', found', leaseOf'⟩ := sound.leased older olderHanded
  unfold sessionOf at same
  rw [found, found'] at same
  have key : newer.record = older.record :=
    sound.distinct _ _ record record' found found' (by simpa using same)
  have below := outranks key
  rw [key] at found
  cases found.symm.trans found'
  obtain ⟨generation, current, reached⟩ := leaseOf.reached
  have stale : record.isCurrent older.binding = false := by
    have ne : generation ≠ older.binding.clientGeneration := by omega
    simp [WebSocketSessionRecord.isCurrent, current, ne]
  have past : ∀ stored, authority.sessions.records.get? record.sessionId = some stored →
      stored.clientGeneration ≠ older.binding.clientGeneration.toNat := by
    intro stored at'
    have le := ((sound.placed _ record found).generation generation current).stored stored at'
    have counted := leaseOf'.counted
    omega
  refine ⟨?_, ?_, ?_, ?_⟩
  · have refused : Ensures (beginUse config older) authority fun result after =>
        (result, after) = (.error (.takeover .staleGeneration), authority) := by
      apply ensures_stored found'
      exact refuses_stale stale
    exact refused
  · have refused : Ensures (complete config older) authority fun result after =>
        (result, after) = (.error (.takeover .staleGeneration), authority) := by
      apply ensures_stored found'
      exact refuses_stale stale
    exact refused
  · have ended : Ensures (endUse config older) authority fun _ after =>
        Unaffected authority after newer := by
      apply ensures_stored found'
      apply ensures_last (endUse_superseded past)
      intro _ sessions unwritten
      apply unaffected_of_records
      · rfl
      · exact unwritten
    exact ended
  · have released : Ensures (release config older) authority fun _ after =>
        Unaffected authority after newer := by
      apply ensures_stored found'
      rw [if_neg (by simp [stale])]
      exact .pure (unaffected_of_records rfl rfl newer)
    exact released

/-- Every ticket leads to the held record it is the ticket of. -/
def TicketsCurrent (authority : ExperimentalWebSocketTakeoverSessionAuthority) : Prop :=
  ∀ ticket key, authority.sessionsByTicket.get? ticket = some key →
    ∃ record, authority.records[key]? = some record ∧ record.ticket = some ticket ∧
      authority.sessionsById.get? record.sessionId = some key

/-- No two tickets lead to records of one session. -/
def TicketsUnique (authority : ExperimentalWebSocketTakeoverSessionAuthority) : Prop :=
  ∀ ticket ticket' key key' record record', authority.sessionsByTicket.get? ticket = some key →
    authority.sessionsByTicket.get? ticket' = some key' →
    authority.records[key]? = some record → authority.records[key']? = some record' →
    record.sessionId = record'.sessionId → ticket = ticket'

theorem Sound.ticketsUnique (sound : Sound config authority) : authority.TicketsUnique := by
  intro ticket ticket' key key' record record' entry entry' found found' same
  have sameKey := sound.distinct key key' record record' found found' same
  subst sameKey
  obtain ⟨current, at', mine, _⟩ := sound.ticketed ticket key entry
  obtain ⟨current', at'', mine', _⟩ := sound.ticketed ticket' key entry'
  cases at'.symm.trans at''
  exact some.inj (mine.symm.trans mine')

/-- In every reachable state each ticket is the current one of a held record and the only one of
its session; of two leases of a session the older one is fenced, so at most one can be used. -/
theorem run_leases_fenced {calls : List AuthorityCall}
    (run : Run (Step config) initial calls authority) :
    authority.TicketsCurrent ∧ authority.TicketsUnique ∧
      (∀ lease, (beginUse config lease authority).1.isOk =
        authority.usableAt (config.sessions.now authority.sessions.reads) lease) ∧
      (authority.leases.Pairwise fun newer older =>
        authority.sessionOf newer = authority.sessionOf older →
          Fences config authority newer older ∧
            ¬ ((beginUse config newer authority).1.isOk = true ∧
              (beginUse config older authority).1.isOk = true)) := by
  have sound := run_sound run
  refine ⟨sound.ticketed, sound.ticketsUnique, beginUse_isOk, ?_⟩
  refine List.Pairwise.imp_of_mem ?_ sound.ordered
  intro newer older newerHanded olderHanded outranks same
  have fences := sound.fences newerHanded olderHanded outranks same
  refine ⟨fences, fun both => ?_⟩
  have used := both.2
  rw [fences.beginUse] at used
  cases used

/-! ## A sample session -/

def sampleTicket : String := "tttttttttttttttttttttttttttttttt"

def sampleAuthorityConfig : SessionAuthorityConfig where
  sessions := TakeoverSessionManager.sampleConfig
  createTicket := fun _ => sampleTicket
  createClientBinding := fun count =>
    if count = 0 then TakeoverSessionManager.sampleBinding
    else TakeoverSessionManager.nextSampleBinding

def sampleLease (clientBinding : String) (clientGeneration : Int) : WebSocketTakeoverLease where
  record := 0
  binding := ⟨"intervention", 1, "principal", clientBinding, clientGeneration⟩

/-- The ticket is accepted a second time after the first lease was released. -/
def sampleOps : List AuthorityOp :=
  [.session (.ensure "intervention" 1 "principal"),
    .issueHandshakeTicket "takeover-0" "principal"
      (.object [("tap", .boolean true), ("scroll", .boolean true), ("text", .boolean false),
        ("key", .boolean false)]),
    .accept "takeover-0" sampleTicket,
    .release (sampleLease TakeoverSessionManager.sampleBinding 1),
    .accept "takeover-0" sampleTicket]

def sampleReconnected : ExperimentalWebSocketTakeoverSessionAuthority :=
  (replayCalls (perform sampleAuthorityConfig) initial sampleOps).2

theorem sampleReconnected_leases :
    sampleReconnected.leases =
      [sampleLease TakeoverSessionManager.nextSampleBinding 2,
        sampleLease TakeoverSessionManager.sampleBinding 1] := by
  decide +kernel

/-- After the reconnect the first lease is fenced by the second. -/
theorem sampleReconnected_fenced :
    Fences sampleAuthorityConfig sampleReconnected
      (sampleLease TakeoverSessionManager.nextSampleBinding 2)
      (sampleLease TakeoverSessionManager.sampleBinding 1) := by
  have met : meetCalls (perform sampleAuthorityConfig) handed initial sampleOps = true := by
    decide +kernel
  have run : Run (Step sampleAuthorityConfig) initial _ sampleReconnected :=
    replayCalls_guarded (perform sampleAuthorityConfig) met
  have pairwise := (run_leases_fenced run).2.2.2
  have same : sampleReconnected.sessionOf
        (sampleLease TakeoverSessionManager.nextSampleBinding 2) =
      sampleReconnected.sessionOf (sampleLease TakeoverSessionManager.sampleBinding 1) := by
    decide +kernel
  rw [sampleReconnected_leases] at pairwise
  exact ((List.pairwise_cons.mp pairwise).1 _ (List.mem_singleton_self _) same).1

end ExperimentalWebSocketTakeoverSessionAuthority

end ExecutionHandoff.WebSocket
