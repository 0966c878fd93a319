import ExecutionHandoff.Experimental.AdapterMoves

/-!
# The gate and the transport in step

A Human is active in the transport only while the gate is `human_active` for
the same intervention and epoch.  The invariant says what the reference between
the two stands for: while it is there, the transport's session is the one it
names and nothing of it is being revoked; once it is dropped, no Human is active
in the transport, and the gate stays with the Human until the revocation is
through.
-/

namespace ExecutionHandoff.Experimental

open Library Core List
open Option (Rel map_eq_some_iff)

/-- A session object later, as far as its owner relies on it. -/
structure SessionFollows (session session' : TerminalSession) : Prop where
  interventionId : session'.interventionId = session.interventionId
  epoch : session'.epoch = session.epoch
  humanActive : session'.humanActive = true → session.humanActive = true
  completes : (.done ∈ session.queue → session.completed = true) →
    .done ∈ session'.queue → session'.completed = true

theorem SessionDrift.follows {heard : Prop} {session session' : TerminalSession}
    (drift : SessionDrift heard session session') : SessionFollows session session' where
  interventionId := drift.interventionId
  epoch := drift.epoch
  humanActive := drift.humanActive
  completes := by
    obtain ⟨events, queued, _, done⟩ := drift.queue
    intro completes mem
    rcases mem_append.mp (queued ▸ mem) with mem | mem
    · exact drift.completed (completes mem)
    · exact done mem

theorem SessionFollows.refl (session : TerminalSession) : SessionFollows session session :=
  (SessionDrift.refl False session).follows

namespace ExperimentalTerminalWebRtcTakeover

variable {first last : ExperimentalTerminalWebRtcTakeover}

/-- Every session object is still there and follows from what it was. -/
def Follows (first last : ExperimentalTerminalWebRtcTakeover) : Prop :=
  ∀ key : Nat, Option.Rel SessionFollows first.objects[key]? last.objects[key]?

theorem follows_of_objects (same : last.objects = first.objects) : Follows first last := by
  intro key
  rw [same]
  cases first.objects[key]? with
  | none => exact .none
  | some session => exact .some (.refl session)

theorem follows_of_drift {heard : Prop}
    (drifts : ∀ key : Nat, Rel (SessionDrift heard) first.objects[key]? last.objects[key]?) :
    Follows first last := by
  intro key
  have drift := drifts key
  generalize first.objects[key]? = start at drift
  generalize last.objects[key]? = stop at drift
  cases drift with
  | none => exact .none
  | some drift => exact .some drift.follows

theorem Follows.trans {middle : ExperimentalTerminalWebRtcTakeover} (before : Follows first middle)
    (after : Follows middle last) : Follows first last := by
  intro key
  have left := before key
  have right := after key
  generalize first.objects[key]? = start at left
  generalize middle.objects[key]? = half at left right
  generalize last.objects[key]? = stop at right
  cases left with
  | none =>
      cases right
      exact .none
  | some follows =>
      cases right with
      | some follows' =>
          refine .some ⟨follows'.interventionId.trans follows.interventionId,
            follows'.epoch.trans follows.epoch, ?_, ?_⟩
          · exact fun active => follows.humanActive (follows'.humanActive active)
          · exact fun completes => follows'.completes (follows.completes completes)

/-- Changing one object in place. -/
theorem follows_modify {key : Nat} {f : TerminalSession → TerminalSession}
    (objects : last.objects = first.objects.modify key f)
    (follows : ∀ session, first.objects[key]? = some session →
      SessionFollows session (f session)) : Follows first last := by
  intro other
  rw [objects, getElem?_modify]
  by_cases here : key = other
  · subst here
    cases found : first.objects[key]? with
    | none => exact .none
    | some session =>
        refine .some ?_
        change SessionFollows session (if key = key then f session else session)
        rw [if_pos rfl]
        exact follows session found
  · cases first.objects[other]? with
    | none => exact .none
    | some session =>
        refine .some ?_
        change SessionFollows session (if key = other then f session else session)
        rw [if_neg here]
        exact .refl session

theorem Follows.back (follows : Follows first last) {key : Nat} {session' : TerminalSession}
    (found : last.objects[key]? = some session') :
    ∃ session, first.objects[key]? = some session ∧ SessionFollows session session' := by
  have rel := follows key
  rw [found] at rel
  generalize first.objects[key]? = start at rel
  cases rel with
  | some follows => exact ⟨_, rfl, follows⟩

theorem Follows.current (follows : Follows first last) (same : last.session = first.session)
    {interventionId : String} {epoch : Int} {key : Nat} {session : TerminalSession}
    (current : first.current? interventionId epoch = some (key, session)) :
    ∃ session', last.current? interventionId epoch = some (key, session') := by
  obtain ⟨chosen, found, id, date⟩ := current?_some current
  have rel := follows key
  rw [found] at rel
  cases found' : last.objects[key]? with
  | none =>
      rw [found'] at rel
      cases rel
  | some session' =>
      rw [found'] at rel
      cases rel with
      | some follows =>
          exact ⟨session', current?_of_found (same.trans chosen) found'
            (follows.interventionId.trans id) (follows.epoch.trans date)⟩

theorem popped_follows {key : Nat} {session : TerminalSession} {event : TerminalWebRtcEvent}
    {rest : List TerminalWebRtcEvent} (found : first.objects[key]? = some session)
    (queued : session.queue = event :: rest) : Follows first (first.popped key event rest) := by
  refine @follows_modify first _ key _ rfl fun session' found' => ?_
  cases found.symm.trans found'
  exact ⟨rfl, rfl, fun active => active, fun completes mem =>
    completes (queued ▸ mem_cons_of_mem event mem)⟩

theorem fenced_follows (takeover : ExperimentalTerminalWebRtcTakeover) (key : Nat) (id : String) :
    Follows takeover (takeover.fenced key id) := by
  refine @follows_modify takeover _ key _ rfl fun session _ => ?_
  exact ⟨rfl, rfl, (fun no => by cases no), fun completes => completes⟩

end ExperimentalTerminalWebRtcTakeover

open TerminalPtyAuthority
open ExperimentalTerminalWebRtcTakeover (Follows Ending Started Drops Lowered Drift)

namespace TerminalHandoffAdapter

variable {config : TerminalHandoffAdapterConfig} {adapter after : TerminalHandoffAdapter}
  {outcome : Except TerminalHandoffError AdapterReply}

/-! ## The invariant -/

/-- The gate is for the Human, waiting or active. -/
def ForHuman (authority : TerminalPtyAuthority) : Prop :=
  ∃ active, authority.state.active = some active ∧
    (active.status = .awaitingHuman ∨ active.status = .humanActive)

/-- What the reference stands for. -/
structure Tied (adapter : TerminalHandoffAdapter) (ref : TerminalTransportRef) : Prop where
  current : ∃ key session,
    adapter.transport.current? ref.interventionId ref.epoch = some (key, session)
  named : ∃ status active, Names adapter.authority ref.interventionId ref.epoch status active ∧
    (status = .awaitingHuman ∨ status = .humanActive)
  alive : adapter.authority.sessionAlive = true
  whole : ∀ key, ¬ adapter.transport.Ending key
  alone : adapter.cancelling = []

/-- The Human of a session object is the one of the gate. -/
structure Agrees (adapter : TerminalHandoffAdapter) (key : Nat) (session : TerminalSession) :
    Prop where
  chosen : adapter.transport.session = some key
  tied : adapter.transportRef = some ⟨session.interventionId, session.epoch⟩
  named : ∃ active,
    Names adapter.authority session.interventionId session.epoch .humanActive active

structure Coupled (adapter : TerminalHandoffAdapter) : Prop where
  tied : ∀ ref, adapter.transportRef = some ref → Tied adapter ref
  active : ∀ (key : Nat) session, adapter.transport.objects[key]? = some session →
    session.humanActive = true → Agrees adapter key session
  completes : ∀ (key : Nat) session, adapter.transport.objects[key]? = some session →
    .done ∈ session.queue → session.completed = true
  ending : ∀ key, adapter.transport.Ending key →
    (adapter.authority.sessionAlive = true → ForHuman adapter.authority) ∧
    ∀ cancellation ∈ adapter.cancelling, cancellation.session = some key
  single : adapter.cancelling.length ≤ 1
  cancelling : ∀ cancellation ∈ adapter.cancelling, adapter.transportRef = none ∧
    (adapter.authority.sessionAlive = true → ForHuman adapter.authority)

theorem initial_coupled : Coupled initial where
  tied := fun _ no => by cases no
  active := fun _ _ no => by cases no
  completes := fun _ _ no => by cases no
  ending := fun _ ⟨_, _, no⟩ => by cases no
  single := Nat.zero_le 1
  cancelling := fun _ no => by cases no

variable {session : TerminalSession} {ref : TerminalTransportRef} {authority : TerminalPtyAuthority}

theorem Tied.forHuman (tied : Tied adapter ref) : ForHuman adapter.authority := by
  obtain ⟨status, active, named, waits⟩ := tied.named
  exact ⟨active, named.held, named.status ▸ waits⟩

/-- Without the reference nobody is active in the transport. -/
theorem Coupled.quiet (coupled : Coupled adapter) (free : adapter.transportRef = none) {key : Nat}
    (found : adapter.transport.objects[key]? = some session) :
    session.humanActive = false := by
  cases active : session.humanActive with
  | false => rfl
  | true => cases free.symm.trans (coupled.active key session found active).tied

theorem names_of_standing {first last : TerminalPtyAuthority} (same : SameStanding first last)
    {id : String} {epoch : Int} {status : InterventionStatus} {active : TerminalIntervention}
    (named : Names first id epoch status active) : Names last id epoch status active :=
  ⟨same.state ▸ named.held, named.id, named.epoch, named.status⟩

theorem forHuman_of_standing {first last : TerminalPtyAuthority} (same : SameStanding first last)
    (forHuman : ForHuman first) : ForHuman last := by
  obtain ⟨active, held, waits⟩ := forHuman
  exact ⟨active, same.state ▸ held, waits⟩

/-! ## Ways to keep it -/

/-- The gate may change its flags. -/
theorem Coupled.observed (coupled : Coupled adapter)
    (same : SameStanding adapter.authority authority) :
    Coupled { adapter with authority } where
  tied := fun ref found => by
    have tied := coupled.tied ref found
    obtain ⟨status, active, named, waits⟩ := tied.named
    exact ⟨tied.current, ⟨status, active, names_of_standing same named, waits⟩,
      same.alive.trans tied.alive, tied.whole, tied.alone⟩
  active := fun key session found human => by
    have agrees := coupled.active key session found human
    obtain ⟨active, named⟩ := agrees.named
    exact ⟨agrees.chosen, agrees.tied, active, names_of_standing same named⟩
  completes := coupled.completes
  ending := fun key ending => by
    obtain ⟨forHuman, cancels⟩ := coupled.ending key ending
    exact ⟨fun alive => forHuman_of_standing same (forHuman (same.alive.symm.trans alive)), cancels⟩
  single := coupled.single
  cancelling := fun cancellation mem => by
    obtain ⟨free, forHuman⟩ := coupled.cancelling cancellation mem
    exact ⟨free, fun alive => forHuman_of_standing same (forHuman (same.alive.symm.trans alive))⟩

/-- The transport may change without a session being dropped. -/
theorem Coupled.follow (coupled : Coupled adapter) {transport : ExperimentalTerminalWebRtcTakeover}
    (follows : Follows adapter.transport transport)
    (session : transport.session = adapter.transport.session)
    (ending : ∀ key, transport.Ending key → adapter.transport.Ending key) :
    Coupled { adapter with transport } where
  tied := fun ref found => by
    have tied := coupled.tied ref found
    obtain ⟨key, old, current⟩ := tied.current
    exact ⟨⟨key, follows.current session current⟩, tied.named, tied.alive,
      fun key ends => tied.whole key (ending key ends), tied.alone⟩
  active := fun key later found human => by
    obtain ⟨old, found', follows⟩ := follows.back found
    have agrees := coupled.active key old found' (follows.humanActive human)
    refine ⟨session.trans agrees.chosen, ?_, ?_⟩
    · rw [follows.interventionId, follows.epoch]
      exact agrees.tied
    · rw [follows.interventionId, follows.epoch]
      exact agrees.named
  completes := fun key later found => by
    obtain ⟨old, found', follows⟩ := follows.back found
    exact follows.completes (coupled.completes key old found')
  ending := fun key ends => coupled.ending key (ending key ends)
  single := coupled.single
  cancelling := coupled.cancelling

/-- The reference is dropped, and the gate may go on or stay as it was. -/
theorem coupled_of_free
    {transport : ExperimentalTerminalWebRtcTakeover} {cancelling : List Cancellation}
    (quiet : ∀ (key : Nat) session, transport.objects[key]? = some session →
      session.humanActive = false)
    (completes : ∀ (key : Nat) session, transport.objects[key]? = some session →
      .done ∈ session.queue → session.completed = true)
    (ending : ∀ key, transport.Ending key →
      (authority.sessionAlive = true → ForHuman authority) ∧
      ∀ cancellation ∈ cancelling, cancellation.session = some key)
    (single : cancelling.length ≤ 1)
    (waits : ∀ cancellation ∈ cancelling, authority.sessionAlive = true → ForHuman authority) :
    Coupled ⟨authority, transport, none, cancelling⟩ where
  tied := fun _ no => by cases no
  active := fun key session found human => by
    cases (quiet key session found).symm.trans human
  completes := completes
  ending := ending
  single := single
  cancelling := fun cancellation mem => ⟨rfl, waits cancellation mem⟩

/-- While the gate is not for the Human there is no reference and nothing is under way. -/
structure Free (adapter : TerminalHandoffAdapter) : Prop where
  free : adapter.transportRef = none
  whole : adapter.authority.sessionAlive = true → ∀ key, ¬ adapter.transport.Ending key
  alone : adapter.authority.sessionAlive = true → adapter.cancelling = []

theorem Coupled.free (coupled : Coupled adapter) (past : ¬ ForHuman adapter.authority) :
    Free adapter := by
  refine ⟨?_, fun alive key ending => past ((coupled.ending key ending).1 alive), fun alive => ?_⟩
  · cases ref : adapter.transportRef with
    | none => rfl
    | some ref' => exact absurd (coupled.tied ref' ref).forHuman past
  · cases pending : adapter.cancelling with
    | nil => rfl
    | cons cancellation rest =>
        have mem : cancellation ∈ adapter.cancelling := pending ▸ mem_cons_self
        exact absurd ((coupled.cancelling cancellation mem).2 alive) past

/-- What the transport's drop leaves. -/
structure Left (first last : ExperimentalTerminalWebRtcTakeover) (key : Nat) : Prop where
  follows : Follows first last
  quiet : ∀ session, last.objects[key]? = some session → session.humanActive = false
  ending : ∀ key', last.Ending key' → key' = key ∨ first.Ending key'

theorem left_of_drops {transport : ExperimentalTerminalWebRtcTakeover} {key : Nat}
    (current : adapter.transport.current? ref.interventionId ref.epoch = some (key, session))
    (drops : Drops adapter.transport ref transport) : Left adapter.transport transport key := by
  cases drops with
  | absent none => cases none.symm.trans current
  | revoked current' lowered pending =>
      cases current'.symm.trans current
      refine ⟨ExperimentalTerminalWebRtcTakeover.follows_of_drift lowered.objects, lowered.lowered,
        ?_⟩
      rintro key' ⟨id, phase, mem⟩
      rw [pending] at mem
      rcases mem_cons.mp mem with same | mem
      · cases same
        exact .inl rfl
      · exact .inr ⟨id, phase, mem⟩

/-- After the drop nobody is active in the transport. -/
theorem Coupled.left_quiet (coupled : Coupled adapter)
    {transport : ExperimentalTerminalWebRtcTakeover} {key : Nat}
    (current : adapter.transport.current? ref.interventionId ref.epoch = some (key, session))
    (left : Left adapter.transport transport key) {other : Nat} {later : TerminalSession}
    (found : transport.objects[other]? = some later) : later.humanActive = false := by
  obtain ⟨old, found', follows⟩ := left.follows.back found
  cases human : later.humanActive with
  | false => rfl
  | true =>
      have chosen := (coupled.active other old found' (follows.humanActive human)).chosen
      obtain ⟨chosen', _⟩ := ExperimentalTerminalWebRtcTakeover.current?_some current
      cases chosen.symm.trans chosen'
      cases (left.quiet later found).symm.trans human

/-- The transport is dropped while the gate stays for the Human, or its session has exited. -/
theorem Coupled.drop (coupled : Coupled adapter) {transport : ExperimentalTerminalWebRtcTakeover}
    {cancelling : List Cancellation} (found : adapter.transportRef = some ref)
    (drops : Drops adapter.transport ref transport)
    (stays : authority.sessionAlive = true → ForHuman authority)
    (single : cancelling.length ≤ 1)
    (cancels : ∀ cancellation ∈ cancelling, cancellation.session =
      (adapter.transport.current? ref.interventionId ref.epoch).map Prod.fst) :
    Coupled ⟨authority, transport, none, cancelling⟩ := by
  have tied := coupled.tied ref found
  obtain ⟨key, session, current⟩ := tied.current
  have left := left_of_drops current drops
  refine coupled_of_free (fun other later found => coupled.left_quiet current left found) ?_ ?_
    single fun _ _ => stays
  · intro other later found
    obtain ⟨old, found', follows⟩ := left.follows.back found
    exact follows.completes (coupled.completes other old found')
  · intro key' ending
    refine ⟨stays, fun cancellation mem => ?_⟩
    rcases left.ending key' ending with rfl | ending
    · rw [cancels cancellation mem, current]
      rfl
    · exact absurd ending (tied.whole key')

/-! ## Moves -/

theorem Coupled.begin (coupled : Coupled adapter)
    {transport : ExperimentalTerminalWebRtcTakeover} {active : TerminalIntervention}
    (begun : Begun adapter.authority active authority)
    (started : Started adapter.transport transport session)
    (id : session.interventionId = active.id) (epoch : session.epoch = active.epoch) :
    Coupled
      { adapter with authority, transport, transportRef := some ⟨active.id, active.epoch⟩ } := by
  have idle : ¬ ForHuman adapter.authority := by
    rintro ⟨other, held, _⟩
    cases begun.idle.symm.trans held
  have free := coupled.free idle
  have found {key : Nat} {later : TerminalSession} (found : transport.objects[key]? = some later) :
      adapter.transport.objects[key]? = some later ∨
        key = adapter.transport.objects.length ∧ later = session := by
    rw [started.objects, getElem?_append] at found
    split at found
    · exact .inl found
    · rename_i beyond
      obtain ⟨last, same⟩ := List.getElem?_eq_some_iff.mp found
      rw [length_singleton] at last
      have here : key = adapter.transport.objects.length := by omega
      subst here
      rw [Nat.sub_self] at found
      cases found
      exact .inr ⟨rfl, rfl⟩
  have whole : ∀ key, ¬ transport.Ending key := by
    rintro key ⟨work, phase, mem⟩
    exact free.whole begun.alive key ⟨work, phase, started.pending ▸ mem⟩
  have alone := free.alone begun.alive
  have placed : transport.objects[adapter.transport.objects.length]? = some session := by
    rw [started.objects, getElem?_append_right (Nat.le_refl _), Nat.sub_self]
    rfl
  refine ⟨?_, ?_, ?_, fun key ending => absurd ending (whole key), coupled.single, ?_⟩
  · rintro _ ⟨⟩
    exact ⟨⟨_, session, ExperimentalTerminalWebRtcTakeover.current?_of_found started.session
      placed id epoch⟩, ⟨_, active, ⟨begun.held, rfl, rfl, begun.waits⟩, .inl rfl⟩, begun.living,
      whole, alone⟩
  · intro key later mem human
    rcases found mem with old | ⟨_, rfl⟩
    · cases (coupled.quiet free.free old).symm.trans human
    · cases started.idle.symm.trans human
  · intro key later mem done
    rcases found mem with old | ⟨_, rfl⟩
    · exact coupled.completes key later old done
    · rw [started.queue] at done
      cases done
  · intro cancellation mem
    change cancellation ∈ adapter.cancelling at mem
    rw [alone] at mem
    cases mem

theorem Coupled.claim (coupled : Coupled adapter) {human : TerminalIntervention} {key : Nat}
    {runtime : TerminalDataChannelRuntime}
    (found : adapter.transportRef = some ref)
    (claimed : Claimed ref.interventionId ref.epoch adapter.authority human authority)
    (current : adapter.transport.current? ref.interventionId ref.epoch = some (key, session)) :
    Coupled
      { adapter with
        authority
        transport := (adapter.transport.withRuntime runtime).modify key fun session =>
          { session with humanActive := true } } := by
  have tied := coupled.tied ref found
  obtain ⟨chosen, at', id, epoch⟩ := ExperimentalTerminalWebRtcTakeover.current?_some current
  have forHuman : ForHuman authority := ⟨human, claimed.named.held, .inr claimed.named.status⟩
  have objects {other : Nat} {later : TerminalSession}
      (mem : (adapter.transport.objects.modify key fun session =>
        { session with humanActive := true })[other]? = some later) :
      ∃ old, adapter.transport.objects[other]? = some old ∧
        later.interventionId = old.interventionId ∧ later.epoch = old.epoch ∧
        later.queue = old.queue ∧ later.completed = old.completed ∧
        (other = key ∨ later = old) := by
    rw [getElem?_modify] at mem
    obtain ⟨old, found, same⟩ := map_eq_some_iff.mp mem
    refine ⟨old, found, ?_⟩
    split at same
    · rename_i here
      subst same
      exact ⟨rfl, rfl, rfl, rfl, .inl here.symm⟩
    · cases same
      exact ⟨rfl, rfl, rfl, rfl, .inr rfl⟩
  refine ⟨?_, ?_, ?_, fun other ending => absurd ending (tied.whole other), coupled.single, ?_⟩
  · intro ref' found'
    cases found.symm.trans found'
    have active := @ExperimentalTerminalWebRtcTakeover.current?_modify
      (adapter.transport.withRuntime runtime) _ _ _ _
      (fun session => { session with humanActive := true }) current rfl rfl
    exact ⟨⟨key, _, active⟩, ⟨_, human, claimed.named, .inr rfl⟩,
      claimed.alive.trans tied.alive, tied.whole, tied.alone⟩
  · intro other later mem active
    obtain ⟨old, mem', id', epoch', _, _, same⟩ := objects mem
    have here : other = key := by
      rcases same with here | rfl
      · exact here
      · have chosen' := (coupled.active other later mem' active).chosen
        exact Option.some.inj (chosen'.symm.trans chosen)
    subst here
    cases mem'.symm.trans at'
    refine ⟨chosen, ?_, human, ?_⟩
    · rw [id', epoch', id, epoch]
      exact found
    · rw [id', epoch', id, epoch]
      exact claimed.named
  · intro other later mem done
    obtain ⟨old, mem', _, _, queue, completed, _⟩ := objects mem
    rw [completed]
    exact coupled.completes other old mem' (queue ▸ done)
  · intro cancellation mem
    change cancellation ∈ adapter.cancelling at mem
    rw [tied.alone] at mem
    cases mem

/-- The gate's claim alone: the transport refused to follow it. -/
theorem Coupled.unclaim (coupled : Coupled adapter) {human : TerminalIntervention}
    (found : adapter.transportRef = some ref)
    (claimed : Claimed ref.interventionId ref.epoch adapter.authority human authority) :
    Coupled { adapter with authority } := by
  have tied := coupled.tied ref found
  refine ⟨?_, ?_, coupled.completes, fun key ending => absurd ending (tied.whole key),
    coupled.single, ?_⟩
  · intro ref' found'
    cases found.symm.trans found'
    exact ⟨tied.current, ⟨_, human, claimed.named, .inr rfl⟩, claimed.alive.trans tied.alive,
      tied.whole, tied.alone⟩
  · intro key session mem active
    have agrees := coupled.active key session mem active
    cases found.symm.trans agrees.tied
    exact ⟨agrees.chosen, agrees.tied, human, claimed.named⟩
  · intro cancellation mem
    change cancellation ∈ adapter.cancelling at mem
    rw [tied.alone] at mem
    cases mem

/-- A Done that the gate takes releases the transport. -/
theorem Coupled.complete (coupled : Coupled adapter)
    {transport : ExperimentalTerminalWebRtcTakeover} {key : Nat}
    (found : adapter.transportRef = some ref)
    (current : adapter.transport.current? ref.interventionId ref.epoch = some (key, session))
    (follows : Follows adapter.transport transport)
    (lowered : ∀ session, transport.objects[key]? = some session → session.humanActive = false)
    (pending : transport.pending = adapter.transport.pending) :
    Coupled { adapter with authority, transport, transportRef := none } := by
  have tied := coupled.tied ref found
  have whole : ∀ key, ¬ transport.Ending key := by
    rintro key ⟨id, phase, mem⟩
    exact tied.whole key ⟨id, phase, pending ▸ mem⟩
  have left : Left adapter.transport transport key :=
    ⟨follows, lowered, fun key' ending => absurd ending (whole key')⟩
  refine coupled_of_free (fun other later mem => coupled.left_quiet current left mem) ?_
    (fun key ending => absurd ending (whole key)) coupled.single ?_
  · intro other later mem
    obtain ⟨old, found', follows⟩ := follows.back mem
    exact follows.completes (coupled.completes other old found')
  · intro cancellation mem
    rw [tied.alone] at mem
    cases mem

/-- Nothing is under way for a gate that leaves the Human's hands otherwise. -/
theorem Coupled.settle (coupled : Coupled adapter) {authority : TerminalPtyAuthority}
    {cancelling : List Cancellation} (free : adapter.transportRef = none)
    (whole : authority.sessionAlive = true → ∀ key, ¬ adapter.transport.Ending key)
    (single : cancelling.length ≤ 1)
    (cancels : ∀ cancellation ∈ cancelling, cancellation ∈ adapter.cancelling)
    (alone : authority.sessionAlive = true → cancelling = []) :
    Coupled ⟨authority, adapter.transport, none, cancelling⟩ := by
  refine coupled_of_free (fun key session found => coupled.quiet free found) coupled.completes ?_
    single ?_
  · intro key ending
    refine ⟨fun alive => absurd ending (whole alive key), fun cancellation mem => ?_⟩
    exact (coupled.ending key ending).2 cancellation (cancels cancellation mem)
  · intro cancellation mem alive
    rw [alone alive] at mem
    cases mem

/-- Every move keeps the two in step. -/
theorem Move.coupled (move : Move adapter outcome after) (coupled : Coupled adapter) :
    Coupled after := by
  cases move with
  | observed _ same => exact coupled.observed same
  | begun _ _ begun started id epoch => exact coupled.begin begun started id epoch
  | @unbegun _ _ authority _ _ _ begun _ =>
      have idle : ¬ ForHuman adapter.authority := by
        rintro ⟨other, held, _⟩
        cases begun.idle.symm.trans held
      have free := coupled.free idle
      have renewed := @Coupled.settle adapter coupled authority _ free.free
        (fun _ => free.whole begun.alive) coupled.single (fun _ mem => mem)
        (fun _ => free.alone begun.alive)
      exact free.free ▸ renewed.follow (ExperimentalTerminalWebRtcTakeover.follows_of_objects rfl)
        rfl fun _ ending => ending
  | claimed _ tied claimed current => exact coupled.claim tied claimed current
  | unclaimed _ tied claimed same => exact (coupled.unclaim tied claimed).observed same
  | heard tied current queued _ _ =>
      obtain ⟨_, found, _⟩ := ExperimentalTerminalWebRtcTakeover.current?_some current
      exact coupled.follow (ExperimentalTerminalWebRtcTakeover.popped_follows found queued) rfl
        fun _ ending => ending
  | @done ref authority verifying key session rest tied current queued completed =>
      obtain ⟨_, found, _⟩ := ExperimentalTerminalWebRtcTakeover.current?_some current
      have follows := (ExperimentalTerminalWebRtcTakeover.popped_follows found queued).trans
        (ExperimentalTerminalWebRtcTakeover.fenced_follows _ key session.id)
      refine coupled.complete tied current follows ?_ rfl
      exact (ExperimentalTerminalWebRtcTakeover.lowered_fenced _ key session.id).lowered
  | @deaf _ ref authority key session rest _ tied current queued _ same =>
      obtain ⟨_, found, _⟩ := ExperimentalTerminalWebRtcTakeover.current?_some current
      have follows := (ExperimentalTerminalWebRtcTakeover.popped_follows found queued).trans
        (ExperimentalTerminalWebRtcTakeover.fenced_follows _ key session.id)
      exact (coupled.follow follows rfl fun _ ending => ending).observed same
  | verified _ verified =>
      have past : ¬ ForHuman adapter.authority := by
        rintro ⟨active, held, waits⟩
        obtain ⟨active', held', late⟩ := verified.past
        cases held.symm.trans held'
        rcases waits with waits | waits <;> rcases late with late | late <;>
          cases waits.symm.trans late
      have free := coupled.free past
      have renewed := coupled.settle free.free
        (fun alive => free.whole (verified.alive.symm.trans alive)) coupled.single
        (fun _ mem => mem) (fun alive => free.alone (verified.alive.symm.trans alive))
      exact free.free ▸ renewed
  | fenced _ tied current same =>
      exact (coupled.follow (ExperimentalTerminalWebRtcTakeover.fenced_follows _ _ _) rfl
        fun _ ending => ending).observed same
  | dropped _ tied same drops =>
      have forHuman := forHuman_of_standing same (coupled.tied _ tied).forHuman
      refine coupled.drop tied drops (fun _ => forHuman) coupled.single fun cancellation mem => ?_
      rw [(coupled.tied _ tied).alone] at mem
      cases mem
  | cancelling _ tied _ _ session drops =>
      have here := coupled.tied _ tied
      refine coupled.drop tied drops (fun _ => here.forHuman) ?_ ?_
      · rw [here.alone]
        exact Nat.le_refl 1
      · rw [here.alone]
        intro cancellation mem
        cases mem_singleton.mp mem
        exact session
  | exited _ exited left =>
      have dead {motive : Prop} {authority : TerminalPtyAuthority}
          (exited : Exited adapter.authority authority)
          (alive : authority.sessionAlive = true) : motive := by
        cases exited.dead.symm.trans alive
      rcases left with ⟨free, rfl⟩ | ⟨ref, tied, drops⟩
      · exact coupled.settle free (dead exited) coupled.single (fun _ mem => mem) (dead exited)
      · refine coupled.drop tied drops (dead exited) coupled.single fun cancellation mem => ?_
        rw [(coupled.tied _ tied).alone] at mem
        cases mem

/-! ## Steps -/

/-- What the network does keeps the two in step: a session goes only when its revocation is
through, and then the reference is gone. -/
theorem Coupled.network (coupled : Coupled adapter) {heard : Prop}
    {transport : ExperimentalTerminalWebRtcTakeover}
    (drift : Drift heard adapter.transport transport) : Coupled { adapter with transport } := by
  have follows := ExperimentalTerminalWebRtcTakeover.follows_of_drift drift.objects
  rcases drift.session with same | ⟨_, key, ending⟩
  · exact coupled.follow follows same drift.ending
  have free : adapter.transportRef = none := by
    cases ref : adapter.transportRef with
    | none => rfl
    | some ref' => exact absurd ending ((coupled.tied ref' ref).whole key)
  have renewed : Coupled ⟨adapter.authority, transport, none, adapter.cancelling⟩ := by
    refine coupled_of_free ?_ ?_ ?_ coupled.single ?_
    · intro key later found
      obtain ⟨old, found', follows⟩ := follows.back found
      cases human : later.humanActive with
      | false => rfl
      | true => cases (coupled.quiet free found').symm.trans (follows.humanActive human)
    · intro key later found
      obtain ⟨old, found', follows⟩ := follows.back found
      exact follows.completes (coupled.completes key old found')
    · exact fun key ending => coupled.ending key (drift.ending key ending)
    · exact fun cancellation mem => (coupled.cancelling cancellation mem).2
  exact free ▸ renewed

/-- The gate leaves the Human's hands only once the revocation is through. -/
theorem Coupled.cancelled (coupled : Coupled adapter) {cancellation : Cancellation}
    (mem : cancellation ∈ adapter.cancelling)
    (through : cancellation.session.all adapter.revoked = true)
    (authority : TerminalPtyAuthority) :
    Coupled { adapter with authority, cancelling := adapter.cancelling.erase cancellation } := by
  have free := (coupled.cancelling cancellation mem).1
  have whole : ∀ key, ¬ adapter.transport.Ending key := by
    rintro key ⟨id, phase, pending⟩
    have revoked := through
    rw [(coupled.ending key ⟨id, phase, pending⟩).2 cancellation mem] at revoked
    have other := all_eq_true.mp revoked _ pending
    simp at other
  have alone : adapter.cancelling.erase cancellation = [] := by
    have length := length_erase_of_mem mem
    have single := coupled.single
    exact eq_nil_of_length_eq_zero (by omega)
  have renewed : Coupled ⟨authority, adapter.transport, none, []⟩ :=
    coupled.settle free (fun _ => whole) (Nat.zero_le 1) (fun _ no => by cases no) fun _ => rfl
  rw [alone, free]
  exact renewed

theorem perform_spec (coupled : Coupled adapter) (op : AdapterOp) :
    StateExcept.Ensures (perform config op) adapter (Move adapter) :=
  perform_move op fun key session found => coupled.completes key session found

theorem step_coupled {event : AdapterEvent} (step : Step config adapter event after)
    (coupled : Coupled adapter) : Coupled after := by
  change next config adapter event = some after at step
  cases event with
  | call op outcome =>
      change (if _ then _ else _) = some after at step
      split at step
      · cases step
        exact (perform_spec coupled op).coupled coupled
      · cases step
  | handle boundPrincipal request =>
      change (if _ then _ else _) = some after at step
      split at step
      · cases step
        exact @Coupled.network adapter coupled False _
          (ExperimentalTerminalWebRtcTakeover.drift_handle request)
      · cases step
        exact coupled
  | network event =>
      cases event with
      | request _ => cases step
      | settle work succeeded =>
          obtain ⟨transport, happens, rfl⟩ := map_eq_some_iff.mp step
          exact coupled.network (ExperimentalTerminalWebRtcTakeover.network_drift happens)
      | peer key event =>
          obtain ⟨transport, happens, rfl⟩ := map_eq_some_iff.mp step
          exact coupled.network (ExperimentalTerminalWebRtcTakeover.network_drift happens)
      | expire timer =>
          obtain ⟨transport, happens, rfl⟩ := map_eq_some_iff.mp step
          exact coupled.network (ExperimentalTerminalWebRtcTakeover.network_drift happens)
  | cancelled cancellation =>
      change (if _ then _ else _) = some after at step
      split at step
      · rename_i enabled
        cases step
        exact coupled.cancelled enabled.1 enabled.2 _
      · cases step

/-! ## What happens to the gate -/

/-- What a step does to the gate. -/
inductive GateMove (first last : TerminalPtyAuthority) : Prop where
  | same (same : SameStanding first last)
  | begun {active : TerminalIntervention} (begun : Begun first active last)
  | unbegun {middle : TerminalPtyAuthority} {active : TerminalIntervention} {id : String}
      {epoch : Int} (begun : Begun first active middle)
      (cancelled : Cancelled id epoch middle last)
  | claimed {middle : TerminalPtyAuthority} {human : TerminalIntervention} {id : String}
      {epoch : Int} (claimed : Claimed id epoch first human middle)
      (same : SameStanding middle last)
  | cancelled {id : String} {epoch : Int} (cancelled : Cancelled id epoch first last)
  | completed {verifying : TerminalIntervention} {id : String} {epoch : Int}
      (completed : Completed id epoch first verifying last)
  | verified (verified : Verified first last)
  | exited (exited : Exited first last)

theorem Move.gate (move : Move adapter outcome after) :
    GateMove adapter.authority after.authority := by
  cases move with
  | observed _ same => exact .same same
  | begun _ _ begun _ _ _ => exact .begun begun
  | unbegun _ begun cancelled => exact .unbegun begun cancelled
  | claimed _ _ claimed _ => exact .claimed claimed (.refl _)
  | unclaimed _ _ claimed same => exact .claimed claimed same
  | heard _ _ _ _ _ => exact .same (.refl _)
  | done _ _ _ completed => exact .completed completed
  | deaf _ _ _ _ _ same => exact .same same
  | verified _ verified => exact .verified verified
  | fenced _ _ _ same => exact .same same
  | dropped _ _ same _ => exact .same same
  | cancelling _ _ _ _ _ _ => exact .same (.refl _)
  | exited _ exited _ => exact .exited exited

theorem step_gate {event : AdapterEvent} (step : Step config adapter event after)
    (coupled : Coupled adapter) : GateMove adapter.authority after.authority := by
  change next config adapter event = some after at step
  have still : GateMove adapter.authority adapter.authority := .same (.refl _)
  cases event with
  | call op outcome =>
      change (if _ then _ else _) = some after at step
      split at step
      · cases step
        exact (perform_spec coupled op).gate
      · cases step
  | handle boundPrincipal request =>
      change (if _ then _ else _) = some after at step
      split at step
      · cases step
        exact still
      · cases step
        exact still
  | network event =>
      cases event with
      | request _ => cases step
      | settle work succeeded =>
          obtain ⟨transport, _, rfl⟩ := map_eq_some_iff.mp step
          exact still
      | peer key event =>
          obtain ⟨transport, _, rfl⟩ := map_eq_some_iff.mp step
          exact still
      | expire timer =>
          obtain ⟨transport, _, rfl⟩ := map_eq_some_iff.mp step
          exact still
  | cancelled cancellation =>
      change (if _ then _ else _) = some after at step
      split at step
      · cases step
        have spec := @cancelBeforeHuman_spec config.authority adapter.authority config.binding
          cancellation.awaiting.interventionId cancellation.awaiting.epoch
        cases outcome : (TerminalPtyAuthority.cancelBeforeHuman config.authority config.binding
          cancellation.awaiting.interventionId cancellation.awaiting.epoch adapter.authority).1 with
        | error error => exact .same (spec.refused error outcome)
        | ok status => exact .cancelled (spec.accepted status outcome)
      · cases step

theorem GateMove.dated {first last : TerminalPtyAuthority} (move : GateMove first last)
    (dated : Dated first) : Dated last := by
  intro active held
  cases move with
  | same same => exact same.state ▸ dated active (same.state ▸ held)
  | begun begun =>
      cases begun.held.symm.trans held
      exact Nat.le_of_eq begun.epoch
  | unbegun _ cancelled => cases cancelled.idle.symm.trans held
  | claimed claimed same =>
      obtain ⟨waiting, waited⟩ := claimed.waited
      have reached := dated waiting waited.held
      rw [same.state] at held ⊢
      cases claimed.named.held.symm.trans held
      have epoch := waited.epoch.trans claimed.named.epoch.symm
      have kept := claimed.same
      omega
  | cancelled cancelled => cases cancelled.idle.symm.trans held
  | completed completed =>
      cases completed.held.symm.trans held
      exact Nat.le_of_eq completed.epoch
  | verified verified => exact verified.dated dated active held
  | exited exited => exact exited.dated dated active held

/-- Every later intervention that is in the Human's hands is later than an epoch. -/
structure Past (epoch : Nat) (authority : TerminalPtyAuthority) : Prop where
  reached : epoch ≤ authority.state.epoch
  later : ∀ active, authority.state.active = some active →
    active.status = .awaitingHuman ∨ active.status = .humanActive → epoch < active.epoch

theorem GateMove.past {epoch : Nat} {first last : TerminalPtyAuthority} (move : GateMove first last)
    (past : Past epoch first) : Past epoch last := by
  have reached := past.reached
  cases move with
  | same same => exact ⟨same.state ▸ reached, fun active held => past.later active (same.state ▸ held)⟩
  | begun begun =>
      have later := Nat.lt_of_le_of_lt reached begun.later
      refine ⟨Nat.le_of_lt later, fun active held _ => ?_⟩
      cases begun.held.symm.trans held
      exact begun.epoch ▸ later
  | unbegun begun cancelled =>
      have later := Nat.le_of_lt (Nat.lt_of_le_of_lt reached begun.later)
      refine ⟨Nat.le_trans later cancelled.later, fun active held _ => ?_⟩
      cases cancelled.idle.symm.trans held
  | claimed claimed same =>
      obtain ⟨waiting, waited⟩ := claimed.waited
      have later := past.later waiting waited.held (.inl waited.status)
      refine ⟨same.state ▸ claimed.same ▸ reached, fun active held _ => ?_⟩
      rw [same.state] at held
      cases claimed.named.held.symm.trans held
      have kept := waited.epoch.trans claimed.named.epoch.symm
      omega
  | cancelled cancelled =>
      refine ⟨Nat.le_trans reached cancelled.later, fun active held _ => ?_⟩
      cases cancelled.idle.symm.trans held
  | completed completed =>
      refine ⟨Nat.le_trans reached (Nat.le_of_lt completed.later), fun active held waits => ?_⟩
      cases completed.held.symm.trans held
      rw [completed.status] at waits
      rcases waits with no | no
      · cases no
      · cases no
  | verified verified =>
      refine ⟨verified.same ▸ reached, fun active held waits => ?_⟩
      rw [verified.next active held] at waits
      rcases waits with no | no
      · cases no
      · cases no
  | exited exited =>
      refine ⟨Nat.le_trans reached exited.later, fun active held waits => ?_⟩
      obtain ⟨waiting, human⟩ := exited.past active held
      rcases waits with waits | waits
      · exact absurd waits waiting
      · exact absurd waits human

/-! ## Runs -/

/-- What a call of `nextHumanEvent` that returns an event says about the gate: it was
`human_active` for that Human, and a Done has taken it further. -/
theorem nextHumanEvent_gate (coupled : Coupled adapter) {human : TerminalHandoffInterventionRef}
    {event : TerminalHandoffHumanEvent}
    (step : Step config adapter (.call (.nextHumanEvent human) (.ok (.event (some event)))) after) :
    (∃ active, Names adapter.authority human.interventionId human.epoch .humanActive active) ∧
    ((∀ verifying, event ≠ .done verifying) ∧ after.authority = adapter.authority ∨
      ∃ verifying, event = .done (publicIntervention verifying) ∧
        Completed human.interventionId human.epoch adapter.authority verifying after.authority) := by
  have tied : StateExcept.Ensures (perform config (.nextHumanEvent human)) adapter
      fun result _ => ∀ value, result = .ok value →
        adapter.transportRef = some ⟨human.interventionId, human.epoch⟩ := by
    apply StateExcept.Ensures.mapping
    apply ensures_requireTransportRef
    · exact fun _ _ no => by cases no
    · exact fun tied _ _ => tied
  change (if _ then _ else _) = some after at step
  split at step
  · rename_i returned
    have move : Move adapter (perform config (.nextHumanEvent human) adapter).1
        (perform config (.nextHumanEvent human) adapter).2 := perform_spec coupled _
    have held := tied _ returned
    rw [returned, Option.some.inj step] at move
    cases move with
    | observed silent _ | begun silent | unbegun silent | claimed silent | unclaimed silent
    | deaf silent | verified silent | fenced silent | dropped silent | cancelling silent
    | exited silent => exact absurd rfl (silent event)
    | heard found _ _ _ told =>
        cases held.symm.trans found
        obtain ⟨undone, named⟩ := told event rfl
        exact ⟨named, .inl ⟨undone, rfl⟩⟩
    | done found _ _ completed =>
        cases held.symm.trans found
        exact ⟨completed.human, .inr ⟨_, rfl, completed⟩⟩
  · cases step

theorem run_coupled_dated {events : List AdapterEvent} {last : TerminalHandoffAdapter}
    (run : Run (Step config) initial events last) : Coupled last ∧ Dated last.authority := by
  refine @Run.invariant _ _ _ (fun adapter => Coupled adapter ∧ Dated adapter.authority) _ _ _ run
    (fun step inv => ⟨step_coupled step inv.1, (step_gate step inv.1).dated inv.2⟩) ?_
  exact ⟨initial_coupled, fun _ no => by cases no⟩

/-- Whatever comes after, the gate is past an epoch it was past before. -/
theorem run_past {epoch : Nat} {events : List AdapterEvent} {first last : TerminalHandoffAdapter}
    (run : Run (Step config) first events last) (coupled : Coupled first)
    (past : Past epoch first.authority) : Coupled last ∧ Past epoch last.authority := by
  induction run with
  | refl => exact ⟨coupled, past⟩
  | step head _ ih => exact ih (step_coupled head coupled) ((step_gate head coupled).past past)

/-- The transport and the gate are in step after every run: a Human is active in the transport
only if the gate is `human_active` for the same intervention and epoch, events are returned only
then, and after a Done neither is ever the case again for that intervention. -/
theorem run_coupled {events : List AdapterEvent} {last : TerminalHandoffAdapter}
    (run : Run (Step config) initial events last) :
    (∀ (key : Nat) session, last.transport.objects[key]? = some session →
      session.humanActive = true → last.transport.session = some key ∧
      ∃ active, Names last.authority session.interventionId session.epoch .humanActive active) ∧
    (∀ human event after,
      Step config last (.call (.nextHumanEvent human) (.ok (.event (some event)))) after →
      (∀ verifying, event ≠ .done verifying) → after.authority = last.authority ∧
      ∃ active, Names last.authority human.interventionId human.epoch .humanActive active) ∧
    ∀ human verifying after later final,
      Step config last (.call (.nextHumanEvent human) (.ok (.event (some (.done verifying)))))
        after →
      Run (Step config) after later final →
      human.epoch < verifying.epoch ∧
      (∀ active, final.authority.state.active = some active → active.status = .humanActive →
        verifying.epoch < active.epoch) ∧
      ∀ other event further,
        Step config final (.call (.nextHumanEvent other) (.ok (.event (some event)))) further →
        verifying.epoch < other.epoch := by
  obtain ⟨coupled, dated⟩ := run_coupled_dated run
  refine ⟨fun key session found human => ?_, fun human event after step undone => ?_, ?_⟩
  · have agrees := coupled.active key session found human
    exact ⟨agrees.chosen, agrees.named⟩
  · obtain ⟨named, ⟨_, same⟩ | ⟨verifying, told, _⟩⟩ := nextHumanEvent_gate coupled step
    · exact ⟨same, named⟩
    · exact absurd told (undone _)
  · intro human verifying after later final step run
    obtain ⟨⟨active, named⟩, ⟨undone, _⟩ | ⟨taken, told, completed⟩⟩ :=
      nextHumanEvent_gate coupled step
    · exact absurd rfl (undone verifying)
    cases told
    have past : Past taken.epoch after.authority := by
      refine ⟨Nat.le_of_eq completed.epoch, fun other held waits => ?_⟩
      cases completed.held.symm.trans held
      rw [completed.status] at waits
      rcases waits with no | no
      · cases no
      · cases no
    obtain ⟨coupled', past'⟩ := run_past run (step_coupled step coupled) past
    refine ⟨?_, fun other held human => ?_, fun other event further step' => ?_⟩
    · have reached := dated active named.held
      have later := completed.later
      have epoch := completed.epoch
      have date := named.epoch
      change human.epoch < (taken.epoch : Int)
      omega
    · have later := past'.later other held (.inr human)
      change (taken.epoch : Int) < other.epoch
      omega
    · obtain ⟨⟨other', named'⟩, _⟩ := nextHumanEvent_gate coupled' step'
      have later := past'.later other' named'.held (.inr named'.status)
      have date := named'.epoch
      change (taken.epoch : Int) < other.epoch
      omega

/-! ## A sample hand-off -/

def sampleAdapterTerminal : TerminalPtyBinding := ⟨"pty-1", 1, samplePrincipal⟩

def sampleAdapter : TerminalHandoffAdapterConfig where
  supplied := sampleAdapterTerminal
  binding := sampleAdapterTerminal
  normalized := by decide +kernel
  authority :=
    { now := fun reads => reads
      createId := fun _ => "intervention"
      supplied := sampleAdapterTerminal
      session := sampleAdapterTerminal
      normalized := by decide +kernel }
  bound := rfl
  takeover := sampleTransport

def sampleAwaiting : TerminalHandoffInterventionRef := ⟨"intervention", 1, .awaitingHuman⟩

def sampleHuman : TerminalHandoffInterventionRef := ⟨"intervention", 1, .humanActive⟩

/-- The sample page connects. -/
def sampleConnect : List AdapterEvent :=
  [.handle (some samplePrincipal) (sampleRequest .prepare),
    .network (.settle (.prepare sampleBinding) true),
    .network (.settle (.issue sampleBinding) true),
    .handle (some samplePrincipal) (sampleRequest .connect),
    .network (.settle (.connect 0 "takeover-0" samplePageCapability samplePrincipal samplePage) true),
    .network (.peer 0 .announced), .network (.peer 0 .opened)]

/-- The Human of the sample page takes over. -/
def sampleClaim : List AdapterEvent :=
  .call .begin (.ok (.begun sampleAwaiting "takeover-0")) ::
    sampleConnect ++ [.call (.claimHumanAfterAgentDrain sampleAwaiting)
      (.ok (.intervention sampleHuman))]

theorem sampleClaim_coupled :
    ∃ adapter session active, Run (Step sampleAdapter) initial sampleClaim adapter ∧
      adapter.transport.objects[0]? = some session ∧ session.humanActive = true ∧
      Names adapter.authority "intervention" 1 .humanActive active := by
  have claimed : ((execute (next sampleAdapter) initial sampleClaim).bind fun adapter =>
      adapter.transport.objects[0]?.map fun session =>
        (session.interventionId, session.epoch, session.humanActive)) =
      some ("intervention", 1, true) := by
    decide +kernel
  obtain ⟨adapter, executed, human⟩ := Option.bind_eq_some_iff.mp claimed
  have run := (run_iff_execute _ _ _ _).mpr executed
  obtain ⟨session, found, same⟩ := Option.map_eq_some_iff.mp human
  obtain ⟨id, epoch, human⟩ : session.interventionId = "intervention" ∧ session.epoch = 1 ∧
      session.humanActive = true := by
    simpa only [Prod.mk.injEq] using same
  obtain ⟨_, active, named⟩ := (run_coupled run).1 0 session found human
  exact ⟨adapter, session, active, run, found, human, id ▸ epoch ▸ named⟩

end TerminalHandoffAdapter

end ExecutionHandoff.Experimental
