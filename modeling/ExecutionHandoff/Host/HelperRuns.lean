import ExecutionHandoff.Host.HelperClient
import ExecutionHandoff.Library.Runs

/-!
# Commands and replies of the Linux helpers

A helper writes lines that it means as its ready line, as the answer to a
command, or as nothing that it was asked for.  They arrive in chunks cut
anywhere, and timers, failures and the end of the process come at any time.  The
XTEST client is used by itself; the AT-SPI client behind the promise chain of
`requestAccessibilitySnapshot`.
-/

namespace ExecutionHandoff.Host

open Library Surface List Option

/-- What the helper means by a line. -/
inductive HelperLine where
  | ready
  | answer (command : Nat)
  | unsolicited
  deriving DecidableEq

namespace HelperClient

variable {κ : Type} {protocol : HelperProtocol κ} {client next : HelperClient κ}
  {asked late : Nat → Prop} {lines : List HelperLine}

/-- Nothing stands against the next command but an outstanding one. -/
def Usable (client : HelperClient κ) : Prop :=
  client.readyState = .ready ∧ client.closing = false ∧ client.exited = false ∧
    client.stdinFailed = false ∧ ∀ entry ∈ client.log, entry.stops = false

/-- The outstanding command is `asked` for, and what has timed out without closing the client is
`late`. -/
structure Sound (asked late : Nat → Prop) (lines : List HelperLine) (client : HelperClient κ) :
    Prop where
  taken_le : client.taken ≤ lines.length
  answers : ∀ command, .answer command ∈ lines → command < client.written.length
  waiting : client.readyState = .waiting →
    client.taken = 0 ∧ client.written = [] ∧ client.pending = none
  pending : ∀ command sent, client.pending = some (command, sent) →
    command + 1 = client.written.length ∧ client.taken = command + 1 ∧ asked command
  level : client.Usable → client.pending = none → client.taken = client.written.length + 1
  wrote : ∀ command, .wrote command ∈ client.log → command < client.written.length
  settled : ∀ command < client.written.length,
    (∃ entry ∈ client.log, entry.settles = some command) ∨
      ∃ sent, client.pending = some (command, sent)
  closed : ∀ entry ∈ client.log, ∀ command, entry.settles = some command →
    command < client.written.length ∧ ∀ sent, client.pending ≠ some (command, sent)
  once : ∀ entry ∈ client.log, ∀ other ∈ client.log, ∀ command,
    entry.settles = some command → other.settles = some command → entry = other
  resolved : ∀ command line, .resolved command line ∈ client.log →
    line = command + 1 ∧ line < lines.length ∧
      ∀ other, lines[line]? = some (.answer other) → other ≤ command
  quiet : client.log.Pairwise fun earlier later =>
    earlier.stops = true → ∀ command, later ≠ .wrote command
  halts : ∀ entry ∈ client.log, entry.stops = true →
    client.closing = true ∨ ∃ command, entry = .timedOut command ∧ late command

theorem sound_initial : Sound asked late [] (initial : HelperClient κ) :=
  ⟨Nat.le_refl 0, fun _ no => (by cases no), fun _ => ⟨rfl, rfl, rfl⟩, fun _ _ no => (by cases no),
    fun usable => (by cases usable.1), fun _ no => (by cases no),
    fun _ no => (Nat.not_lt_zero _ no).elim, fun _ no => (by cases no), fun _ no => (by cases no),
    fun _ _ no => (by cases no), .nil, fun _ no => (by cases no)⟩

/-- Only the flags of the client have changed. -/
theorem Sound.flags (sound : Sound asked late lines client)
    (same : next.written = client.written ∧ next.taken = client.taken ∧
      next.pending = client.pending ∧ next.log = client.log)
    (waiting : next.readyState = .waiting → client.readyState = .waiting)
    (usable : next.Usable → client.Usable)
    (closing : client.closing = true → next.closing = true) : Sound asked late lines next := by
  rcases next with ⟨output, readyState, pending, closing', exited, stdinFailed, written, taken, log⟩
  obtain ⟨rfl, rfl, rfl, rfl⟩ := same
  exact ⟨sound.taken_le, sound.answers, fun begun => sound.waiting (waiting begun), sound.pending,
    fun able => sound.level (usable able), sound.wrote, sound.settled, sound.closed, sound.once,
    sound.resolved, sound.quiet,
    fun entry mem stops => (sound.halts entry mem stops).imp_left closing⟩

/-- The outstanding command is settled, if there is one. -/
theorem Sound.settledBy (sound : Sound asked late lines client) (written : next.written = client.written)
    (taken : next.taken ≤ lines.length) (idle : next.pending = none) (entry : Option HelperEntry)
    (log : next.log = client.log ++ entry.toList) (unwritten : ∀ command, .wrote command ∉ entry)
    (settles : entry.bind HelperEntry.settles = client.pending.map Prod.fst)
    (resolved : ∀ command line, .resolved command line ∈ entry →
      line = command + 1 ∧ line < lines.length ∧
        ∀ other, lines[line]? = some (.answer other) → other ≤ command)
    (level : next.Usable → next.taken = client.written.length + 1)
    (begun : next.readyState ≠ .waiting) (closing : client.closing = true → next.closing = true)
    (halts : ∀ new ∈ entry, new.stops = true →
      next.closing = true ∨ ∃ command, new = .timedOut command ∧ late command) :
    Sound asked late lines next := by
  have split : ∀ {old}, old ∈ next.log ↔ old ∈ client.log ∨ old ∈ entry := by
    intro old
    rw [log, mem_append, mem_toList, mem_def]
  have opened : ∀ {new command}, new ∈ entry → new.settles = some command →
      ∃ sent, client.pending = some (command, sent) := by
    intro new command mem same
    rw [mem_def.mp mem, bind_some, same] at settles
    obtain ⟨⟨_, sent⟩, pending, rfl⟩ := map_eq_some_iff.mp settles.symm
    exact ⟨sent, pending⟩
  refine ⟨taken, written ▸ sound.answers, fun no => absurd no begun, ?_,
    fun able _ => written ▸ level able, ?_, ?_, ?_, ?_, ?_, ?_, ?_⟩
  · intro command sent no
    rw [idle] at no
    cases no
  · intro command mem
    rw [written]
    exact (split.mp mem).elim (sound.wrote command) fun new => absurd new (unwritten command)
  · intro command lt
    rw [written] at lt
    refine .inl ?_
    rcases sound.settled command lt with ⟨old, mem, same⟩ | ⟨sent, pending⟩
    · exact ⟨old, split.mpr (.inl mem), same⟩
    · rw [pending] at settles
      obtain ⟨new, mem, same⟩ := bind_eq_some_iff.mp settles
      exact ⟨new, split.mpr (.inr mem), same⟩
  · intro old mem command same
    rw [written, idle]
    refine ⟨?_, fun sent no => by cases no⟩
    rcases split.mp mem with old' | new
    · exact (sound.closed old old' command same).1
    · obtain ⟨sent, pending⟩ := opened new same
      rw [← (sound.pending command sent pending).1]
      exact Nat.lt_succ_self command
  · intro one mem other mem' command same same'
    rcases split.mp mem with old | new <;> rcases split.mp mem' with old' | new'
    · exact sound.once one old other old' command same same'
    · obtain ⟨sent, pending⟩ := opened new' same'
      exact absurd pending ((sound.closed one old command same).2 sent)
    · obtain ⟨sent, pending⟩ := opened new same
      exact absurd pending ((sound.closed other old' command same').2 sent)
    · exact mem_unique new new'
  · intro command line mem
    exact (split.mp mem).elim (sound.resolved command line) (resolved command line)
  · rw [log, pairwise_append]
    refine ⟨sound.quiet, ?_, fun _ _ later mem _ command same =>
      unwritten command (same ▸ mem_toList.mp mem)⟩
    cases entry with
    | none => exact .nil
    | some new => exact pairwise_singleton _ _
  · intro old mem stops
    rcases split.mp mem with old' | new
    · exact (sound.halts old old' stops).imp_left closing
    · exact halts old new stops

/-- The outstanding command is settled, if there is one, and none will be written any more. -/
theorem Sound.ended (sound : Sound asked late lines client) (written : next.written = client.written)
    (taken : next.taken ≤ lines.length) (idle : next.pending = none) (entry : Option HelperEntry)
    (log : next.log = client.log ++ entry.toList) (plain : ∀ new ∈ entry, new.Plain)
    (settles : entry.bind HelperEntry.settles = client.pending.map Prod.fst)
    (unusable : ¬ next.Usable) (begun : next.readyState ≠ .waiting)
    (closing : client.closing = true → next.closing = true)
    (halts : ∀ new ∈ entry, new.stops = true →
      next.closing = true ∨ ∃ command, new = .timedOut command ∧ late command) :
    Sound asked late lines next :=
  sound.settledBy written taken idle entry log (fun command mem => (plain _ mem).1 command rfl) settles
    (fun command line mem => ((plain _ mem).2 command line rfl).elim)
    (fun usable => absurd usable unusable) begun closing halts

/-- The next line is the reply to the outstanding command. -/
theorem Sound.replied (sound : Sound asked late lines client) {command : Nat} {sent : κ}
    (pending : client.pending = some (command, sent)) (arrived : client.taken < lines.length)
    (begun : client.readyState ≠ .waiting) :
    Sound asked late lines { client with
      pending := none
      taken := client.taken + 1
      log := client.log ++ [.resolved command client.taken] } := by
  obtain ⟨last, position, _⟩ := sound.pending command sent pending
  refine sound.settledBy rfl arrived rfl (some (.resolved command client.taken)) rfl
    (fun _ no => by cases no) ?_ ?_ ?_ begun id (fun _ mem stops => ?_)
  · rw [pending]
    rfl
  · rintro _ _ ⟨⟩
    refine ⟨position, arrived, fun other answer => ?_⟩
    have given := sound.answers other (mem_of_getElem? answer)
    omega
  · intro _
    dsimp only
    omega
  · cases mem
    cases stops

/-- Other commands are asked for and late now. -/
theorem Sound.relax {asked' late' : Nat → Prop} (sound : Sound asked late lines client)
    (asks : ∀ command sent, client.pending = some (command, sent) → asked' command)
    (weaker : ∀ command, .timedOut command ∈ client.log → late command →
      client.closing = true ∨ late' command) : Sound asked' late' lines client := by
  refine { sound with
    pending := fun command sent pending => ?_
    halts := fun entry mem stops => ?_ }
  · obtain ⟨last, place, _⟩ := sound.pending command sent pending
    exact ⟨last, place, asks command sent pending⟩
  rcases sound.halts entry mem stops with closing | ⟨command, rfl, was⟩
  · exact .inl closing
  · exact (weaker command mem was).imp_right fun is => ⟨command, rfl, is⟩

/-- The helper has written a line more, which may answer a command that it was given. -/
theorem Sound.emitted (sound : Sound asked late lines client) {more : List HelperLine}
    (given : ∀ command, .answer command ∈ more → command < client.written.length) :
    Sound asked late (lines ++ more) client := by
  refine { sound with taken_le := ?_, answers := ?_, resolved := ?_ }
  · rw [length_append]
    exact Nat.le_add_right_of_le sound.taken_le
  · intro command mem
    exact (mem_append.mp mem).elim (sound.answers command) (given command)
  · intro command line mem
    obtain ⟨position, lt, answer⟩ := sound.resolved command line mem
    rw [length_append, getElem?_append_left lt]
    exact ⟨position, Nat.lt_add_right _ lt, answer⟩

/-! ## What the client does -/

theorem settle_eq (entry : Nat → HelperEntry) : client.settle entry =
    { client with
      pending := none
      log := client.log ++ (client.pending.map fun sent => entry sent.1).toList } := by
  rcases client with ⟨_, _, _ | _, _⟩
  · simp [settle]
  · rfl

theorem fail_eq : client.fail =
    { client with
      readyState := if client.readyState = .waiting then .failed else client.readyState
      pending := none
      log := client.log ++ (client.pending.map fun sent => HelperEntry.failed sent.1).toList } := by
  unfold fail
  rw [settle_eq]
  split <;> rfl

theorem plain_failed (command : Nat) : (HelperEntry.failed command).Plain :=
  ⟨fun _ no => (by cases no), fun _ _ no => (by cases no)⟩

theorem plain_of_stops {entry : HelperEntry} (stops : entry.stops = true) : entry.Plain := by
  constructor
  · rintro _ rfl
    cases stops
  · rintro _ _ rfl
    cases stops

/-- One entry for the outstanding command, whatever it is. -/
theorem bind_settles {entry : Nat → HelperEntry} (settles : ∀ command, (entry command).settles = some command)
    (pending : Option (Nat × κ)) :
    (pending.map fun sent => entry sent.1).bind HelperEntry.settles = pending.map Prod.fst := by
  cases pending with
  | none => rfl
  | some sent => exact settles sent.1

/-- The outstanding command fails with a client that does not write any more. -/
theorem Sound.fail (sound : Sound asked late lines client)
    (halted : client.readyState = .waiting ∨ client.closing = true ∨ client.exited = true ∨
      client.stdinFailed = true) : Sound asked late lines client.fail := by
  rw [fail_eq]
  refine sound.ended rfl sound.taken_le rfl _ rfl ?_ (bind_settles (fun _ => rfl) _) ?_ ?_ id ?_
  · intro new mem
    obtain ⟨sent, _, rfl⟩ := map_eq_some_iff.mp mem
    exact plain_failed sent.1
  · rintro ⟨ready, closing, exited, stdinFailed, _⟩
    rcases halted with same | same | same | same
    · exact absurd ready (by simp [same])
    · exact absurd (same.symm.trans closing) (by decide)
    · exact absurd (same.symm.trans exited) (by decide)
    · exact absurd (same.symm.trans stdinFailed) (by decide)
  · dsimp only
    split
    · exact fun no => by cases no
    · assumption
  · intro new mem stops
    obtain ⟨sent, _, rfl⟩ := map_eq_some_iff.mp mem
    cases stops

theorem Sound.close (sound : Sound asked late lines client) : Sound asked late lines client.close :=
  sound.flags ⟨rfl, rfl, rfl, rfl⟩ id (fun usable => by cases usable.2.1) fun _ => rfl

theorem Sound.readyTimeout (sound : Sound asked late lines client) :
    Sound asked late lines client.readyTimeout := by
  unfold HelperClient.readyTimeout
  split
  · exact sound.flags ⟨rfl, rfl, rfl, rfl⟩ (fun no => by cases no)
      (fun usable => by cases usable.2.1) fun _ => rfl
  · exact sound

theorem Sound.writeFailed (sound : Sound asked late lines client) :
    Sound asked late lines client.writeFailed := by
  refine Sound.fail ?_ (.inr (.inr (.inr rfl)))
  exact sound.flags ⟨rfl, rfl, rfl, rfl⟩ id (fun usable => by cases usable.2.2.2.1) id

theorem Sound.exit (sound : Sound asked late lines client) :
    Sound asked late lines { client with exited := true } :=
  sound.flags ⟨rfl, rfl, rfl, rfl⟩ id (fun usable => by cases usable.2.2.1) id

/-- A command that has timed out is late, unless the client is closed with it. -/
theorem Sound.ackTimeout (sound : Sound asked late lines client) (outstanding : client.pending.isSome)
    (timely : protocol.closesOnTimeout = true ∨ ∀ command, asked command → late command) :
    Sound asked late lines (client.ackTimeout protocol) := by
  obtain ⟨⟨command, sent⟩, pending⟩ := isSome_iff_exists.mp outstanding
  have begun : client.readyState ≠ .waiting := by
    intro waiting
    have none := (sound.waiting waiting).2.2
    rw [pending] at none
    cases none
  have settled : Sound asked (fun other => late other ∨ asked other) lines
      (client.settle .timedOut) := by
    rw [settle_eq, pending]
    refine Sound.ended (sound.relax (fun _ _ same => (sound.pending _ _ same).2.2)
      fun _ _ was => .inr (.inl was)) rfl sound.taken_le rfl (some (.timedOut command)) rfl ?_ ?_ ?_
      begun id ?_
    · rintro _ ⟨⟩
      exact plain_of_stops rfl
    · rw [pending]
      rfl
    · rintro ⟨_, _, _, _, none⟩
      cases none (.timedOut command) (mem_append_right _ (mem_singleton_self _))
    · rintro _ ⟨⟩ _
      exact .inr ⟨command, rfl, .inr (sound.pending command sent pending).2.2⟩
  have kept {other : HelperClient κ} (still : Sound asked (fun other => late other ∨ asked other) lines other)
      (all : ∀ command, late command ∨ asked command → other.closing = true ∨ late command) :
      Sound asked late lines other :=
    still.relax (fun _ _ same => (still.pending _ _ same).2.2) fun command _ => all command
  unfold HelperClient.ackTimeout
  split
  · exact kept settled.close fun _ _ => .inl rfl
  · rename_i open_
    exact kept settled fun command was => .inr (was.elim id (timely.resolve_left open_ command))

theorem command_spec {line : κ} (done : client.command protocol line = some next) :
    (client.readyState = .ready ∧ client.closing = false ∧ client.exited = false ∧
      client.stdinFailed = false) ∧ client.pending = none ∧
      next = { client with
        pending := some (client.written.length, line)
        written := client.written ++ [line]
        log := client.log ++ [.wrote client.written.length] } := by
  unfold HelperClient.command at done
  split at done
  · cases done
  rename_i able
  split at done
  · cases done
  rename_i free
  split at done
  · cases done
  split at done
  · cases done
  rename_i writes
  push Not at able
  exact ⟨⟨able.1, Bool.eq_false_iff.mpr able.2.1, Bool.eq_false_iff.mpr able.2.2,
    Bool.eq_false_iff.mpr writes⟩, not_isSome_iff_eq_none.mp free, (Option.some.inj done).symm⟩

/-- A command is written after all the others are settled, and only while none is late. -/
theorem Sound.command {asked' : Nat → Prop} (sound : Sound asked late lines client)
    (never : ∀ command, ¬ late command) (asks : asked' client.written.length) {line : κ}
    (done : client.command protocol line = some next) : Sound asked' late lines next := by
  obtain ⟨⟨ready, open_, running, writes⟩, idle, rfl⟩ := command_spec done
  have going : ∀ entry ∈ client.log, entry.stops = false := by
    intro entry mem
    refine Bool.eq_false_iff.mpr fun stops => ?_
    rcases sound.halts entry mem stops with closing | ⟨command, _, was⟩
    · exact absurd (open_.symm.trans closing) (by decide)
    · exact never command was
  have level := sound.level ⟨ready, open_, running, writes, going⟩ idle
  have old : ∀ {entry}, entry ∈ client.log ++ [.wrote client.written.length] →
      entry ∈ client.log ∨ entry = .wrote client.written.length := by
    intro entry mem
    exact (mem_append.mp mem).imp_right mem_singleton.mp
  have longer : (client.written ++ [line]).length = client.written.length + 1 := by simp
  refine ⟨sound.taken_le, ?_, ?_, ?_, fun _ no => (by cases no), ?_, ?_, ?_, ?_, ?_, ?_, ?_⟩
  · intro command mem
    exact longer ▸ Nat.lt_succ_of_lt (sound.answers command mem)
  · intro waiting
    exact absurd (ready.symm.trans waiting) (by decide)
  · rintro command sent ⟨⟩
    exact ⟨longer.symm, level, asks⟩
  · intro command mem
    dsimp only
    rw [longer]
    rcases old mem with before | same
    · exact Nat.lt_succ_of_lt (sound.wrote command before)
    · cases same
      exact Nat.lt_succ_self _
  · intro command lt
    dsimp only at lt
    rw [longer] at lt
    rcases Nat.lt_succ_iff_lt_or_eq.mp lt with before | rfl
    · rcases sound.settled command before with ⟨entry, mem, same⟩ | ⟨sent, no⟩
      · exact .inl ⟨entry, mem_append_left _ mem, same⟩
      · rw [idle] at no
        cases no
    · exact .inr ⟨line, rfl⟩
  · intro entry mem command same
    rcases old mem with before | rfl
    · have lt := (sound.closed entry before command same).1
      refine ⟨longer ▸ Nat.lt_succ_of_lt lt, ?_⟩
      rintro sent ⟨⟩
      exact Nat.lt_irrefl _ lt
    · cases same
  · intro entry mem other mem' command same same'
    rcases old mem with before | rfl
    · rcases old mem' with before' | rfl
      · exact sound.once entry before other before' command same same'
      · cases same'
    · cases same
  · intro command line mem
    rcases old mem with before | no
    · exact sound.resolved command line before
    · cases no
  · refine pairwise_append.mpr ⟨sound.quiet, pairwise_singleton _ _, ?_⟩
    intro entry mem _ _ stops
    exact absurd (stops.symm.trans (going entry mem)) (by decide)
  · intro entry mem stops
    rcases old mem with before | rfl
    · exact sound.halts entry before stops
    · cases stops

section Lines

/-- A line is the ready line, the reply to the outstanding command, or the end of the client. -/
theorem Sound.takeLine (sound : Sound asked late lines client) (arrived : client.taken < lines.length)
    (line : JsString) : Sound asked late lines (client.takeLine protocol line).1 := by
  unfold HelperClient.takeLine
  dsimp only
  by_cases waiting : client.readyState = .waiting
  · rw [if_pos waiting]
    obtain ⟨first, nothing, idle⟩ := sound.waiting waiting
    split
    · refine { sound with
        taken_le := arrived
        waiting := fun no => by cases no
        pending := fun command sent no => ?_
        level := fun _ _ => ?_ }
      · rw [idle] at no
        cases no
      · dsimp only
        rw [first, nothing]
        rfl
    · rw [fail_eq]
      refine sound.ended rfl arrived rfl none ?_ (fun _ no => by cases no) ?_
        (fun usable => by cases usable.2.1) ?_ (fun _ => rfl) fun _ no => by cases no
      · simp [HelperClient.close, idle]
      · rw [idle]
        rfl
      · simp [HelperClient.close, waiting]
  · rw [if_neg waiting]
    cases outstanding : client.pending with
    | none =>
        dsimp only
        rw [fail_eq]
        refine sound.ended rfl arrived rfl (some (.unexpected client.taken)) ?_ ?_ ?_
          (fun usable => by cases usable.2.1) ?_ (fun _ => rfl) fun _ _ _ => .inl rfl
        · simp [HelperClient.close]
        · rintro _ ⟨⟩
          exact plain_of_stops rfl
        · rw [outstanding]
          rfl
        · dsimp only [HelperClient.close]
          rw [if_neg waiting]
          exact waiting
    | some sent =>
        obtain ⟨command, sent⟩ := sent
        dsimp only
        split
        · rw [settle_eq]
          exact sound.replied outstanding arrived waiting
        · rw [settle_eq]
          refine sound.ended rfl arrived rfl (some (.mismatched command client.taken)) ?_ ?_ ?_
            (fun usable => by cases usable.2.1) waiting (fun _ => rfl) fun _ _ _ => .inl rfl
          · simp [HelperClient.close]
          · rintro _ ⟨⟩
            exact plain_of_stops rfl
          · rw [outstanding]
            rfl

theorem takeLine_taken (line : JsString) :
    (client.takeLine protocol line).1.taken = client.taken + 1 := by
  unfold takeLine
  dsimp only
  split
  · split
    · rfl
    · rw [fail_eq]
      rfl
  · split
    · rw [fail_eq]
      rfl
    · split <;> rw [settle_eq]
      rfl

variable {rest : JsString} {texts : List JsString}

theorem Sound.consumeLines (sound : Sound asked late lines client)
    (arrived : client.taken + texts.length ≤ lines.length) :
    Sound asked late lines (consumeLines protocol rest texts client) := by
  induction texts generalizing client with
  | nil => exact sound.flags ⟨rfl, rfl, rfl, rfl⟩ id id id
  | cons line texts ih =>
      rw [length_cons] at arrived
      have one := @Sound.takeLine κ protocol client asked late lines sound (by omega) (trimUnits line)
      have taken := @takeLine_taken κ protocol client (trimUnits line)
      unfold HelperClient.consumeLines
      split
      · rename_i next same
        rw [same] at one taken
        dsimp only at taken
        exact ih one (by omega)
      · rename_i next same
        rw [same] at one
        exact one.flags ⟨rfl, rfl, rfl, rfl⟩ id id id

/-- A line is taken or still in the output. -/
theorem consumeLines_count (clean : ∀ line ∈ texts, 10 ∉ line) (clean' : 10 ∉ rest) :
    (consumeLines protocol rest texts client).taken +
      (consumeLines protocol rest texts client).output.count 10 = client.taken + texts.length := by
  induction texts generalizing client with
  | nil =>
      unfold consumeLines
      rw [count_eq_zero.mpr clean']
      rfl
  | cons line texts ih =>
      have others : ∀ other ∈ texts, 10 ∉ other := fun other mem => clean other (.tail _ mem)
      have taken := @takeLine_taken κ protocol client (trimUnits line)
      unfold consumeLines
      split
      · rename_i next same
        rw [same] at taken
        dsimp only at taken
        rw [ih others, taken, length_cons]
        omega
      · rename_i next same
        rw [same] at taken
        dsimp only at taken ⊢
        rw [count_append, count_terminate others, count_eq_zero.mpr clean', taken,
          length_cons]
        omega

end Lines

section Chunks

variable {chunk : List UInt8}

theorem Sound.consume (sound : Sound asked late lines client)
    (arrived : client.taken + client.output.count 10 + chunk.count 10 ≤ lines.length) :
    Sound asked late lines (client.consume protocol chunk) := by
  unfold HelperClient.consume
  dsimp only
  split
  · rw [fail_eq]
    refine sound.ended rfl sound.taken_le rfl
      (client.pending.map fun sent => HelperEntry.failed sent.1) rfl ?_
      (bind_settles (fun _ => rfl) _) (fun usable => by cases usable.2.1) ?_ (fun _ => rfl)
      fun _ _ _ => .inl rfl
    · intro new mem
      obtain ⟨sent, _, rfl⟩ := map_eq_some_iff.mp mem
      exact plain_failed sent.1
    · dsimp only [HelperClient.close]
      split
      · exact fun no => by cases no
      · assumption
  · refine sound.consumeLines ?_
    rw [length_completeLines, count_append, count_units_decodeUtf8]
    omega

theorem consume_count : (client.consume protocol chunk).taken +
    (client.consume protocol chunk).output.count 10 =
      client.taken + client.output.count 10 + chunk.count 10 := by
  unfold HelperClient.consume
  dsimp only
  split
  · rw [fail_eq]
    dsimp only [HelperClient.close]
    rw [count_append, count_units_decodeUtf8, Nat.add_assoc]
  · rw [consumeLines_count (completeLines_clean _) (unfinishedLine_clean _), length_completeLines,
      count_append, count_units_decodeUtf8, Nat.add_assoc]

end Chunks

end HelperClient

/-! ## A client and its helper -/

/-- Whether the helper may mean a line so: it answers what it was given. -/
def HelperLine.possible (written : Nat) : HelperLine → Bool
  | answer command => decide (command < written)
  | ready | unsolicited => true

structure HelperLink (κ : Type) where
  client : HelperClient κ
  /-- The lines that the helper has ended. -/
  lines : List HelperLine
  /-- The bytes that have not been read yet. -/
  pipe : List UInt8

inductive HelperEvent where
  | ackTimeout
  | readyTimeout
  | close
  | writeFailed
  | processError
  | exit
  | closed
  /-- The helper writes a part of a line, or the rest of it. -/
  | emit (bytes : List UInt8) (ended : Option HelperLine)
  /-- So many bytes arrive in one chunk. -/
  | chunk (count : Nat)

namespace HelperLink

variable {κ : Type}

def initial : HelperLink κ := ⟨.initial, [], []⟩

def after (protocol : HelperProtocol κ) (link : HelperLink κ) : HelperEvent → Option (HelperLink κ)
  | .ackTimeout =>
      if link.client.pending.isSome then some { link with client := link.client.ackTimeout protocol }
      else none
  | .readyTimeout => some { link with client := link.client.readyTimeout }
  | .close => some { link with client := link.client.close }
  | .writeFailed => some { link with client := link.client.writeFailed }
  -- a process that could not be started, or could not be killed
  | .processError =>
      if link.client.readyState = .waiting ∨ link.client.closing = true then
        some { link with client := link.client.fail }
      else none
  | .exit => some { link with client := { link.client with exited := true } }
  | .closed => if link.client.exited then some { link with client := link.client.fail } else none
  | .emit bytes ended =>
      if 10 ∉ bytes ∧ ended.all (HelperLine.possible link.client.written.length) then
        some { link with
          lines := link.lines ++ ended.toList
          pipe := link.pipe ++ bytes ++ ended.toList.map fun _ => 10 }
      else none
  | .chunk count =>
      some { link with
        client := link.client.consume protocol (link.pipe.take count)
        pipe := link.pipe.drop count }

variable {protocol : HelperProtocol κ} {link next : HelperLink κ}
  {asked late : Nat → Prop}

/-- Every line that the helper has ended is taken, in the output or in the pipe. -/
structure Linked (asked late : Nat → Prop) (link : HelperLink κ) : Prop where
  sound : link.client.Sound asked late link.lines
  count : link.client.taken + link.client.output.count 10 + link.pipe.count 10 = link.lines.length

theorem linked_initial : Linked asked late (initial : HelperLink κ) := ⟨HelperClient.sound_initial, rfl⟩

/-- Where neither the lines nor the output change, the client alone matters. -/
theorem Linked.client {client : HelperClient κ} (linked : Linked asked late link)
    (sound : client.Sound asked late link.lines)
    (same : client.taken = link.client.taken ∧ client.output = link.client.output) :
    Linked asked late { link with client := client } :=
  ⟨sound, by dsimp only; rw [same.1, same.2, linked.count]⟩

theorem Linked.after {event : HelperEvent} (linked : Linked asked late link)
    (timely : protocol.closesOnTimeout = true ∨ ∀ command, asked command → late command)
    (done : link.after protocol event = some next) : Linked asked late next := by
  have sound := linked.sound
  have count := linked.count
  cases event with
  | ackTimeout =>
      obtain ⟨outstanding, ⟨⟩⟩ := ite_none_right_eq_some.mp done
      refine linked.client (sound.ackTimeout outstanding timely) ?_
      unfold HelperClient.ackTimeout
      rw [HelperClient.settle_eq]
      split <;> exact ⟨rfl, rfl⟩
  | readyTimeout =>
      cases done
      refine linked.client sound.readyTimeout ?_
      unfold HelperClient.readyTimeout
      split <;> exact ⟨rfl, rfl⟩
  | close =>
      cases done
      exact linked.client sound.close ⟨rfl, rfl⟩
  | writeFailed =>
      cases done
      refine linked.client sound.writeFailed ?_
      unfold HelperClient.writeFailed
      rw [HelperClient.fail_eq]
      exact ⟨rfl, rfl⟩
  | processError =>
      obtain ⟨halted, ⟨⟩⟩ := ite_none_right_eq_some.mp done
      refine linked.client (sound.fail (halted.imp_right .inl)) ?_
      rw [HelperClient.fail_eq]
      exact ⟨rfl, rfl⟩
  | exit =>
      cases done
      exact linked.client sound.exit ⟨rfl, rfl⟩
  | closed =>
      obtain ⟨halted, ⟨⟩⟩ := ite_none_right_eq_some.mp done
      refine linked.client (sound.fail (.inr (.inr (.inl halted)))) ?_
      rw [HelperClient.fail_eq]
      exact ⟨rfl, rfl⟩
  | emit bytes ended =>
      obtain ⟨⟨clean, possible⟩, ⟨⟩⟩ := ite_none_right_eq_some.mp done
      refine ⟨sound.emitted fun command mem => ?_, ?_⟩
      · rw [mem_toList] at mem
        rw [mem, all_some] at possible
        exact of_decide_eq_true possible
      · dsimp only
        rw [count_append, count_append, count_eq_zero.mpr clean, length_append,
          ← count]
        cases ended with
        | none => simp
        | some meaning =>
            simp
            omega
  | chunk size =>
      cases done
      have whole := congrArg (List.count 10) (take_append_drop size link.pipe)
      rw [count_append] at whole
      refine ⟨sound.consume (by omega), ?_⟩
      dsimp only
      rw [HelperClient.consume_count]
      omega

/-- A command is written only while there is none that has timed out. -/
theorem Linked.command {asked' : Nat → Prop} {line : κ} {client : HelperClient κ}
    (linked : Linked asked late link) (never : ∀ command, ¬ late command)
    (asks : asked' link.client.written.length)
    (done : link.client.command protocol line = some client) :
    Linked asked' late { link with client := client } := by
  refine ⟨linked.sound.command never asks done, ?_⟩
  rw [(HelperClient.command_spec done).2.2]
  exact linked.count

end HelperLink

/-! ## The pointer helper -/

inductive XTestEvent where
  | command (command : XTestCommand)
  | helper (event : HelperEvent)

namespace LinuxXTestPointerHelper

def next (link : HelperLink XTestCommand) : XTestEvent → Option (HelperLink XTestCommand)
  | .command command =>
      (link.client.command protocol command).map fun client => { link with client := client }
  | .helper event => link.after protocol event

/-- Each command that times out closes the client. -/
theorem linked_next {link after : HelperLink XTestCommand} {event : XTestEvent}
    (linked : link.Linked (fun _ => True) fun _ => False) (done : next link event = some after) :
    after.Linked (fun _ => True) fun _ => False := by
  cases event with
  | command command =>
      obtain ⟨client, written, rfl⟩ := map_eq_some_iff.mp done
      exact linked.command (fun _ => id) trivial written
  | helper event => exact linked.after (.inl rfl) done

end LinuxXTestPointerHelper

/-! ## The editable helper -/

/-- `editableHelper` of the host. -/
inductive EditableHelper where
  | starting
  | held
  | dropped
  deriving DecidableEq

/-- Where the last promise of `accessibilityChain` stands. -/
inductive AccessibilityChain where
  | settled
  /-- The snapshot with the number has been asked for. -/
  | running (command : Nat)
  | rejected
  deriving DecidableEq

structure AccessibilityHost where
  link : HelperLink Unit
  editableHelper : EditableHelper
  /-- The requests that wait in the chain for the ones before them. -/
  queued : Nat
  accessibilityChain : AccessibilityChain

inductive AccessibilityEvent where
  /-- The helper's promise of being ready is settled. -/
  | started
  /-- `requestAccessibilitySnapshot`. -/
  | requested
  /-- The first request in the chain asks for its snapshot. -/
  | snapshot
  | settled
  /-- The handler of a request that is rejected. -/
  | caught
  | helper (event : HelperEvent)

namespace AccessibilityHost

def initial : AccessibilityHost := ⟨.initial, .starting, 0, .settled⟩

def resolved (log : List HelperEntry) (command : Nat) : Bool :=
  log.any fun
    | .resolved other _ => other == command
    | _ => false

def next (host : AccessibilityHost) : AccessibilityEvent → Option AccessibilityHost
  | .started =>
      if host.editableHelper = .starting ∧ host.link.client.readyState ≠ .waiting then
        some { host with
          editableHelper := if host.link.client.readyState = .ready then .held else .dropped }
      else none
  | .requested => if host.editableHelper = .held then some { host with queued := host.queued + 1 } else none
  | .snapshot =>
      if host.accessibilityChain = .settled ∧ 0 < host.queued then
        match host.link.client.command LinuxAtSpiEditableHelper.protocol () with
        | some client =>
            some { host with
              link := { host.link with client := client }
              queued := host.queued - 1
              accessibilityChain := .running host.link.client.written.length }
        | none => some { host with queued := host.queued - 1, accessibilityChain := .rejected }
      else none
  | .settled =>
      match host.accessibilityChain with
      | .running command =>
          if host.link.client.pending.isSome then none
          else
            some { host with
              accessibilityChain :=
                if resolved host.link.client.log command then .settled else .rejected }
      | _ => none
  | .caught =>
      if host.accessibilityChain = .rejected then
        some { host with
          editableHelper := .dropped
          link := { host.link with client := host.link.client.close }
          accessibilityChain := .settled }
      else none
  | .helper event =>
      (host.link.after LinuxAtSpiEditableHelper.protocol event).map fun link => { host with link := link }

variable {host after : AccessibilityHost}

/-- The chain waits for the snapshot. -/
def Asked (host : AccessibilityHost) (command : Nat) : Prop :=
  host.accessibilityChain = .running command

/-- What has timed out has not been dealt with. -/
def Late (host : AccessibilityHost) (command : Nat) : Prop :=
  host.accessibilityChain = .rejected ∨ host.accessibilityChain = .running command

def Linked (host : AccessibilityHost) : Prop := host.link.Linked host.Asked host.Late

/-- A snapshot that has been resolved has not timed out. -/
theorem Linked.not_timedOut (linked : host.Linked) {command : Nat}
    (done : resolved host.link.client.log command = true) :
    .timedOut command ∉ host.link.client.log := by
  intro mem
  obtain ⟨entry, mem', same⟩ := any_eq_true.mp done
  cases entry with
  | resolved other line =>
      have same := eq_of_beq same
      subst same
      have no := linked.sound.once _ mem _ mem' other rfl rfl
      cases no
  | _ => cases same

theorem Linked.step {event : AccessibilityEvent} (linked : host.Linked)
    (done : host.next event = some after) : after.Linked := by
  cases event with
  | started | requested =>
      obtain ⟨_, ⟨⟩⟩ := ite_none_right_eq_some.mp done
      exact linked
  | snapshot =>
      obtain ⟨⟨idle, _⟩, done⟩ := ite_none_right_eq_some.mp done
      have never : ∀ command, ¬ host.Late command := by
        rintro command (no | no) <;> exact absurd (idle.symm.trans no) (by simp)
      split at done
      · rename_i client written
        cases done
        obtain ⟨sound, count⟩ := HelperLink.Linked.command linked never rfl written
        refine ⟨sound.relax (fun command sent pending => ?_) fun command _ was => ?_, count⟩
        · exact congrArg AccessibilityChain.running (sound.pending command sent pending).2.2
        · exact absurd was (never command)
      · cases done
        refine ⟨linked.sound.relax (fun command sent pending => ?_) fun _ _ _ => .inr (.inl rfl),
          linked.count⟩
        exact absurd (idle.symm.trans (linked.sound.pending command sent pending).2.2) (by simp)
  | settled =>
      simp only [next] at done
      split at done
      · rename_i command chain
        obtain ⟨free, ⟨⟩⟩ := ite_none_left_eq_some.mp done
        have idle : host.link.client.pending = none := not_isSome_iff_eq_none.mp free
        refine ⟨linked.sound.relax (fun _ _ no => ?_) fun other mem was => .inr ?_, linked.count⟩
        · exact absurd (idle.symm.trans no) (by simp)
        · rcases was with no | same
          · exact absurd (chain.symm.trans no) (by simp)
          · cases chain.symm.trans same
            exact .inl (if_neg fun done => linked.not_timedOut done mem)
      · cases done
  | caught =>
      obtain ⟨rejected, ⟨⟩⟩ := ite_none_right_eq_some.mp done
      refine ⟨linked.sound.close.relax (fun command sent pending => ?_) fun _ _ _ => .inl rfl,
        linked.count⟩
      exact absurd (rejected.symm.trans (linked.sound.pending command sent pending).2.2) (by simp)
  | helper event =>
      obtain ⟨link, moved, rfl⟩ := map_eq_some_iff.mp done
      exact HelperLink.Linked.after linked (.inr fun _ => .inr) moved

end AccessibilityHost

/-! ## Correlation -/

/-- The ready line, and answers in the order of the commands. -/
def Orderly (lines : List HelperLine) : Prop :=
  ∃ answers : List Nat, answers.Pairwise (· < ·) ∧ lines = .ready :: answers.map .answer

theorem le_getElem {answers : List Nat} (ascending : answers.Pairwise (· < ·)) {place : Nat}
    (inside : place < answers.length) : place ≤ answers[place] := by
  induction place with
  | zero => exact Nat.zero_le _
  | succ place ih =>
      have before := ih (by omega)
      have next := pairwise_iff_getElem.mp ascending place (place + 1) (by omega) inside (by omega)
      omega

/-- In orderly lines no command is answered before its place. -/
theorem Orderly.le {lines : List HelperLine} (orderly : Orderly lines) {place : Nat}
    (lt : place + 1 < lines.length) :
    ∃ command, lines[place + 1]? = some (.answer command) ∧ place ≤ command := by
  obtain ⟨answers, ascending, rfl⟩ := orderly
  rw [length_cons, length_map] at lt
  have inside : place < answers.length := by omega
  exact ⟨answers[place], by simp [inside], le_getElem ascending inside⟩

/-- The command has been written and is not settled. -/
def HelperClient.Outstanding {κ : Type} (client : HelperClient κ) (command : Nat) : Prop :=
  .wrote command ∈ client.log ∧ ∀ entry ∈ client.log, entry.settles ≠ some command

structure Correlated {κ : Type} (link : HelperLink κ) : Prop where
  outstanding : ∀ command other, link.client.Outstanding command → link.client.Outstanding other →
    command = other
  byPlace : ∀ command line, .resolved command line ∈ link.client.log →
    line = command + 1 ∧ line < link.lines.length
  ownReply : ∀ command line, .resolved command line ∈ link.client.log →
    Orderly (link.lines.take (line + 1)) → link.lines[line]? = some (.answer command)
  quiet : link.client.log.Pairwise fun earlier later =>
    earlier.stops = true → ∀ command, later ≠ .wrote command

theorem HelperLink.Linked.correlated {κ : Type} {asked late : Nat → Prop} {link : HelperLink κ}
    (linked : Linked asked late link) : Correlated link := by
  have sound := linked.sound
  have last : ∀ {command}, link.client.Outstanding command → ∃ sent,
      link.client.pending = some (command, sent) := by
    intro command outstanding
    rcases sound.settled command (sound.wrote command outstanding.1) with ⟨entry, mem, same⟩ | pending
    · exact absurd same (outstanding.2 entry mem)
    · exact pending
  refine ⟨?_, ?_, ?_, sound.quiet⟩
  · intro command other outstanding outstanding'
    obtain ⟨sent, pending⟩ := last outstanding
    obtain ⟨sent', pending'⟩ := last outstanding'
    cases pending.symm.trans pending'
    rfl
  · intro command line mem
    obtain ⟨place, lt, _⟩ := sound.resolved command line mem
    exact ⟨place, lt⟩
  · intro command line mem orderly
    obtain ⟨rfl, lt, most⟩ := sound.resolved command line mem
    have taken : command + 1 < (link.lines.take (command + 1 + 1)).length := by
      rw [length_take]
      omega
    obtain ⟨other, answer, least⟩ := orderly.le taken
    rw [getElem?_take_of_lt (Nat.lt_succ_self _)] at answer
    rw [answer, Nat.le_antisymm (most other answer) least]

/-- At most one command is outstanding, each is resolved by the line at its place, which is its own
reply if the lines are orderly, and nothing is written after a stop. -/
theorem helpers_correlated :
    (∀ events last, Run (StepOf LinuxXTestPointerHelper.next) .initial events last →
      Correlated last) ∧
    ∀ events last, Run (StepOf AccessibilityHost.next) .initial events last →
      Correlated last.link := by
  constructor
  · intro events last run
    have linked : last.Linked (fun _ => True) fun _ => False :=
      run.invariant (fun step linked => LinuxXTestPointerHelper.linked_next linked step) HelperLink.linked_initial
    exact linked.correlated
  · intro events last run
    have linked : last.Linked :=
      run.invariant (fun step linked => AccessibilityHost.Linked.step linked step)
        HelperLink.linked_initial
    exact HelperLink.Linked.correlated linked

/-- The helper writes a line that nobody asked for; before it is read, a command is written. -/
def sampleEarly : List XTestEvent :=
  [.helper (.emit (JsString.utf8 (JsString.ascii "READY 2")) (some .ready)),
    .helper (.chunk 8),
    .helper (.emit (JsString.utf8 (JsString.ascii "OK MOVE")) (some .unsolicited)),
    .command (LinuxXTestPointerHelper.move 3 4),
    .helper (.chunk 8)]

/-- It is resolved by that line. -/
theorem sampleEarly_resolved :
    ¬ ∀ events last, Run (StepOf LinuxXTestPointerHelper.next) .initial events last →
      ∀ command line, .resolved command line ∈ last.client.log →
        last.lines[line]? = some (.answer command) := by
  intro own
  have ran : ∃ last, execute LinuxXTestPointerHelper.next .initial sampleEarly = some last ∧
      .resolved 0 1 ∈ last.client.log ∧ last.lines[1]? = some .unsolicited := by
    refine ⟨_, rfl, ?_, ?_⟩ <;> decide +kernel
  obtain ⟨last, executed, mem, tag⟩ := ran
  have answer := own _ last ((run_iff_execute _ _ _ _).mpr executed) 0 1 mem
  rw [tag] at answer
  cases answer

end ExecutionHandoff.Host
