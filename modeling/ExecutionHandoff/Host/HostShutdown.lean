import ExecutionHandoff.Host.LinuxHost

/-!
# Inputs after the stop

The shutdown is the last link of the chain, so whatever waits when `stopHost` is
called still begins before it.  Nothing does where nothing waits.
-/

namespace ExecutionHandoff.Host

open Library List
open WebSocket (JsonField JsonValue)

namespace LinuxHost

variable (parse : List UInt8 → Option JsonValue) (number : Option JsonField → Option ℚ)
  (host : LinuxHost)

/-! ## What waits -/

/-- The commands of a chunk that are taken. -/
def taken (chunk : List UInt8) : List LinuxHostCommand :=
  if maxPendingInputBytes < (host.pending ++ chunk).length then []
  else commands parse number (host.arrived chunk)

/-- The event calls `stopHost`. -/
def stops : HostEvent → Bool
  | .data chunk =>
      decide (maxPendingInputBytes < (host.pending ++ chunk).length) ||
        (host.taken parse number chunk).contains .stop
  | .stop _ => true
  | .fails _ => host.current.any fun current => current.1.owner.isSome
  | .begins | .mutates | .ends => false

/-- The event brings inputs. -/
def brings : HostEvent → Bool
  | .data chunk => (host.taken parse number chunk).any fun
    | .input _ => true
    | _ => false
  | _ => false

/-- When the host is stopped no input waits, and none comes in the same chunk. -/
def Idle (host : LinuxHost) (event : HostEvent) : Prop :=
  host.stopReason = none → host.stops parse number event = true →
    host.chain = [] ∧ host.brings parse number event = false

/-- The input that is being applied. -/
def applying : Option Nat := host.current.bind fun current => current.1.owner

variable {parse : List UInt8 → Option JsonValue} {number : Option JsonField → Option ℚ}
  {host host' : LinuxHost}

/-- Once the host is stopped only the shutdown waits, and it only releases. -/
structure Drained (host : LinuxHost) : Prop where
  waiting : host.stopReason ≠ none → ∀ link ∈ host.chain, link = .shutdown
  releasing : ∀ todo, host.current = some (.shutdown, todo) →
    ∀ mutation ∈ todo, mutation.isRelease = true

theorem initial_drained : Drained initial where
  waiting := fun _ _ no => by cases no
  releasing := fun _ no => by cases no

/-! ## The stop -/

theorem stopHost_stopped (reason : HostStopReason) : (host.stopHost reason).stopReason ≠ none := by
  unfold stopHost
  split
  · rename_i stopped
    rw [stopped]
    exact Option.some_ne_none _
  · exact Option.some_ne_none _

/-- Nothing but the chain is touched. -/
theorem stopHost_keeps (reason : HostStopReason) :
    (host.stopHost reason).current = host.current ∧ (host.stopHost reason).begun = host.begun ∧
      (host.stopHost reason).mutations = host.mutations := by
  unfold stopHost
  split
  · exact ⟨rfl, rfl, rfl⟩
  · exact ⟨rfl, rfl, rfl⟩

theorem mem_stopHost {link : HostLink} {reason : HostStopReason}
    (mem : link ∈ (host.stopHost reason).chain) : link ∈ host.chain ∨ link = .shutdown := by
  unfold stopHost at mem
  split at mem
  · exact .inl mem
  · exact (mem_append.mp mem).imp id mem_singleton.mp

theorem drained_stopHost (drained : Drained host) (reason : HostStopReason)
    (waits : host.stopReason = none → host.chain = []) : Drained (host.stopHost reason) := by
  refine ⟨fun _ link mem => ?_, ?_⟩
  · rcases mem_stopHost mem with mem | same
    · by_cases stopped : host.stopReason = none
      · rw [waits stopped] at mem
        cases mem
      · exact drained.waiting stopped link mem
    · exact same
  · rw [(stopHost_keeps reason).1]
    exact drained.releasing

/-! ## Chunks -/

theorem receive_keeps (commands : List LinuxHostCommand) :
    (host.receive commands).current = host.current := by
  induction commands generalizing host with
  | nil => rfl
  | cons command commands ih =>
      cases command with
      | stop => exact ih.trans (stopHost_keeps _).1
      | requestIDR => exact ih
      | input input => exact ih

/-- Without a stop among them, the commands of a chunk do not stop the host. -/
theorem receive_running {commands : List LinuxHostCommand} (running : host.stopReason = none)
    (free : .stop ∉ commands) : (host.receive commands).stopReason = none := by
  induction commands generalizing host with
  | nil => exact running
  | cons command commands ih =>
      have rest : LinuxHostCommand.stop ∉ commands := fun mem => free (mem_cons_of_mem _ mem)
      cases command with
      | stop => exact absurd mem_cons_self free
      | requestIDR => exact ih running rest
      | input input => exact @ih (host.take input) running rest

/-- Without an input among them, they add only the shutdown to the chain. -/
theorem mem_receive {commands : List LinuxHostCommand} {link : HostLink}
    (free : ∀ input, .input input ∉ commands) (mem : link ∈ (host.receive commands).chain) :
    link ∈ host.chain ∨ link = .shutdown := by
  induction commands generalizing host with
  | nil => exact .inl mem
  | cons command commands ih =>
      have rest (input : LinuxHostInput) : LinuxHostCommand.input input ∉ commands :=
        fun mem => free input (mem_cons_of_mem _ mem)
      cases command with
      | stop =>
          rcases ih rest mem with mem | same
          · exact mem_stopHost mem
          · exact .inr same
      | requestIDR => exact ih rest mem
      | input input => exact absurd mem_cons_self (free input)

theorem data_of_stopped (stopped : host.stopReason ≠ none) (chunk : List UInt8) :
    host.data parse number chunk = host := by
  unfold data
  rw [if_pos stopped]

theorem drained_pending (drained : Drained host) (pending : List UInt8) :
    Drained { host with pending } :=
  ⟨drained.waiting, drained.releasing⟩

theorem drained_data {chunk : List UInt8} (drained : Drained host)
    (idle : Idle parse number host (.data chunk)) :
    Drained (host.data parse number chunk) := by
  unfold data
  split
  · exact drained
  · rename_i running
    have running : host.stopReason = none := not_not.mp running
    split
    · rename_i exceeds
      have stops : host.stops parse number (.data chunk) = true :=
        Bool.or_eq_true_iff.mpr (.inl (decide_eq_true exceeds))
      exact drained_stopHost (drained_pending drained _) _ fun _ => (idle running stops).1
    · rename_i within
      have all : host.taken parse number chunk = commands parse number (host.arrived chunk) := by
        unfold taken
        rw [if_neg within]
      refine ⟨fun stopped link mem => ?_, ?_⟩
      · by_cases stop : .stop ∈ host.taken parse number chunk
        · have stops : host.stops parse number (.data chunk) = true :=
            Bool.or_eq_true_iff.mpr (.inr (contains_iff_mem.mpr stop))
          obtain ⟨waits, unbrought⟩ := idle running stops
          have free (input : LinuxHostInput) : .input input ∉ host.taken parse number chunk := by
            intro mem
            have brought : host.brings parse number (.data chunk) = true :=
              any_eq_true.mpr ⟨_, mem, rfl⟩
            rw [unbrought] at brought
            cases brought
          rw [all] at free
          rcases mem_receive free mem with mem | same
          · change link ∈ host.chain at mem
            rw [waits] at mem
            cases mem
          · exact same
        · rw [all] at stop
          exact absurd (@receive_running { host with
            pending := ((host.pending ++ chunk).splitOn 0x0a).getLastD [] } _ running stop) stopped
      · rw [receive_keeps]
        exact drained.releasing

/-! ## Steps -/

theorem releases_release {mutation : Mutation} (mem : mutation ∈ host.releases) :
    mutation.isRelease = true := by
  unfold releases at mem
  rcases mem_append.mp mem with mem | mem
  · split at mem
    · cases mem
    · cases mem_singleton.mp mem
      rfl
  · split at mem
    · cases mem_singleton.mp mem
      rfl
    · cases mem

/-- The failure of an input only adds releases. -/
theorem release_spec (id : Nat) (cancels : Bool) :
    (host.release id cancels).chain = host.chain ∧
      (host.release id cancels).stopReason = host.stopReason ∧
      (host.release id cancels).current = host.current ∧
      (host.release id cancels).begun = host.begun ∧
      ∃ made, (host.release id cancels).mutations = made ++ host.mutations ∧
        ∀ entry ∈ made, entry.2.isRelease = true := by
  unfold release
  by_cases free : host.pressedKey = none
  · rw [if_pos free]
    dsimp only
    split
    · exact ⟨rfl, rfl, rfl, rfl, [(some id, .cancel)], rfl, by simp [Mutation.isRelease]⟩
    · exact ⟨rfl, rfl, rfl, rfl, [], rfl, by simp⟩
  · rw [if_neg free]
    dsimp only
    split
    · exact ⟨rfl, rfl, rfl, rfl, [(some id, .cancel), (some id, .cancelKey)], rfl,
        by simp [Mutation.isRelease]⟩
    · exact ⟨rfl, rfl, rfl, rfl, [(some id, .cancelKey)], rfl, by simp [Mutation.isRelease]⟩

theorem step_drained {event : HostEvent} (step : Step parse number host event host')
    (idle : Idle parse number host event) (drained : Drained host) : Drained host' := by
  change next parse number host event = some host' at step
  cases event with
  | data chunk =>
      cases step
      exact drained_data drained idle
  | stop reason =>
      cases step
      exact drained_stopHost drained reason fun running => (idle running rfl).1
  | begins =>
      change host.begins = some host' at step
      unfold begins at step
      split at step
      · rename_i id input rest _ waits
        cases step
        refine ⟨fun stopped link mem => drained.waiting stopped link ?_, fun todo same => ?_⟩
        · rw [waits]
          exact mem_cons_of_mem _ mem
        · cases same
      · rename_i rest _ waits
        cases step
        refine ⟨fun stopped link mem => drained.waiting stopped link ?_, fun todo same => ?_⟩
        · rw [waits]
          exact mem_cons_of_mem _ mem
        · cases same
          exact fun _ mem => releases_release mem
      · cases step
  | mutates =>
      change host.mutates = some host' at step
      unfold mutates at step
      split at step
      · rename_i link mutation rest current
        split at step
        · cases step
          refine ⟨drained.waiting, fun todo same other mem => ?_⟩
          cases same
          exact drained.releasing _ current other (mem_cons_of_mem _ mem)
        · cases step
      · cases step
  | fails cancels =>
      change host.fails cancels = some host' at step
      unfold fails at step
      split at step
      · rename_i id input todo current
        cases step
        obtain ⟨chain, running, none', _⟩ := @release_spec { host with current := none } id cancels
        refine drained_stopHost ⟨?_, fun todo same => ?_⟩ _ fun stopped => ?_
        · rw [chain, running]
          exact drained.waiting
        · cases none'.symm.trans same
        · rw [running] at stopped
          rw [chain]
          exact (idle stopped (by simp [stops, current, HostLink.owner])).1
      · rename_i mutation rest current
        cases step
        refine ⟨drained.waiting, fun todo same other mem => ?_⟩
        cases same
        exact drained.releasing _ current other (mem_cons_of_mem _ mem)
      · cases step
  | ends =>
      change host.ends = some host' at step
      unfold ends at step
      split at step
      · cases step
        exact ⟨drained.waiting, fun _ same => by cases same⟩
      · cases step
        exact ⟨drained.waiting, fun _ same => by cases same⟩
      · cases step

/-! ## Runs -/

/-- From one state to a later one no input has begun, and what was done is due to the input that
was being applied or a release. -/
structure Quiet (host host' : LinuxHost) : Prop where
  begun : host'.begun = host.begun
  applying : host'.applying = host.applying ∨ host'.applying = none
  made : ∃ made, host'.mutations = made ++ host.mutations ∧
    ∀ entry ∈ made, entry.2.isRelease = true ∨ ∃ id, entry.1 = some id ∧ host.applying = some id

theorem Quiet.of_same (begun : host'.begun = host.begun)
    (applying : host'.applying = host.applying ∨ host'.applying = none)
    (same : host'.mutations = host.mutations) : Quiet host host' :=
  ⟨begun, applying, [], same, fun _ no => by cases no⟩

theorem Quiet.trans {host'' : LinuxHost} (first : Quiet host host') (second : Quiet host' host'') :
    Quiet host host'' := by
  obtain ⟨made, same, due⟩ := first.made
  obtain ⟨made', same', due'⟩ := second.made
  refine ⟨second.begun.trans first.begun, ?_, made' ++ made, ?_, fun entry mem => ?_⟩
  · rcases second.applying with applying | over'
    · rw [applying]
      exact first.applying
    · exact .inr over'
  · rw [same', same, append_assoc]
  · rcases mem_append.mp mem with mem | mem
    · refine (due' entry mem).imp_right fun ⟨id, owner, applying⟩ => ⟨id, owner, ?_⟩
      rcases first.applying with same | over'
      · exact same.symm.trans applying
      · cases over'.symm.trans applying
    · exact due entry mem

theorem quiet_stopHost (reason : HostStopReason) : Quiet host (host.stopHost reason) := by
  obtain ⟨current, begun, same⟩ := @stopHost_keeps host reason
  refine .of_same begun (.inl ?_) same
  unfold applying
  rw [current]

/-- Once the host is stopped it stays so, and its steps are quiet. -/
theorem step_quiet {event : HostEvent} (step : Step parse number host event host')
    (stopped : host.stopReason ≠ none) (drained : Drained host) :
    host'.stopReason ≠ none ∧ Quiet host host' := by
  change next parse number host event = some host' at step
  cases event with
  | data chunk =>
      cases step
      rw [data_of_stopped stopped]
      exact ⟨stopped, .of_same rfl (.inl rfl) rfl⟩
  | stop reason =>
      cases step
      exact ⟨stopHost_stopped reason, quiet_stopHost reason⟩
  | begins =>
      change host.begins = some host' at step
      unfold begins at step
      split at step
      · rename_i id input rest idle waits
        have only := drained.waiting stopped (.input id input) (by rw [waits]; simp)
        cases only
      · rename_i rest idle waits
        cases step
        exact ⟨stopped, .of_same rfl (.inr rfl) rfl⟩
      · cases step
  | mutates =>
      change host.mutates = some host' at step
      unfold mutates at step
      split at step
      · rename_i link mutation rest current
        split at step
        · cases step
          have owned : host.applying = link.owner := by
            unfold applying
            rw [current]
            rfl
          refine ⟨stopped, rfl, .inl ?_, [(link.owner, mutation)], rfl, fun entry mem => ?_⟩
          · rw [owned]
            rfl
          · cases mem_singleton.mp mem
            cases link with
            | input id input => exact .inr ⟨id, rfl, owned⟩
            | shutdown =>
                exact .inl (drained.releasing _ current mutation mem_cons_self)
        · cases step
      · cases step
  | fails cancels =>
      change host.fails cancels = some host' at step
      unfold fails at step
      split at step
      · rename_i id input todo current
        cases step
        obtain ⟨_, running, none', begun, made, same, due⟩ :=
          @release_spec { host with current := none } id cancels
        refine ⟨stopHost_stopped _, .trans ?_ (quiet_stopHost _)⟩
        refine ⟨begun, .inr ?_, made, same, fun entry mem => .inl (due entry mem)⟩
        unfold applying
        rw [none']
        rfl
      · rename_i mutation rest current
        cases step
        exact ⟨stopped, .of_same rfl (.inr rfl) rfl⟩
      · cases step
  | ends =>
      change host.ends = some host' at step
      unfold ends at step
      split at step
      · cases step
        exact ⟨stopped, .of_same rfl (.inr rfl) rfl⟩
      · cases step
        exact ⟨stopped, .of_same rfl (.inr rfl) rfl⟩
      · cases step

/-- When no input waits as `stopHost` is called, and none comes in the same chunk, then no input
begins once the host is stopped: only the one being applied goes on, and what is pressed is
released. -/
theorem run_stopped {before after : List HostEvent} {middle last : LinuxHost}
    (start : Run (Guarded (Step parse number) (Idle parse number)) initial before middle)
    (stopped : middle.stopReason ≠ none)
    (rest : Run (Guarded (Step parse number) (Idle parse number)) middle after last) :
    Quiet middle last := by
  have drained : Drained middle :=
    start.invariant (fun step drained => step_drained step.1 step.2 drained) initial_drained
  have kept {first next' : LinuxHost} {event : HostEvent}
      (step : Guarded (Step parse number) (Idle parse number) first event next')
      (holds : first.stopReason ≠ none ∧ Drained first) :
      next'.stopReason ≠ none ∧ Drained next' :=
    ⟨(step_quiet step.1 holds.1 holds.2).1, step_drained step.1 step.2 holds.2⟩
  refine rest.relation kept ?_ ?_ ?_ ⟨stopped, drained⟩
  · exact fun _ => .of_same rfl (.inl rfl) rfl
  · exact fun first second => first.trans second
  · exact fun step holds => (step_quiet step.1 holds.1 holds.2).2

/-! ## A sample host -/

instance (host : LinuxHost) (event : HostEvent) : Decidable (Idle parse number host event) :=
  inferInstanceAs (Decidable (_ → _ → _))

def sampleLine (content : String) : List UInt8 :=
  ("\x7b\"kind\":\"text\",\"text\":\"" ++ content ++ "\"\x7d").toList.map fun c => c.toNat.toUInt8

def sampleParse (line : List UInt8) : Option JsonValue :=
  (["a", "b"].find? fun content => sampleLine content == line).map fun content =>
    .object [("kind", .string "text"), ("text", .string content)]

def sampleNumber : Option JsonField → Option ℚ
  | some (.number value) => value
  | _ => none

/-- The host is stopped while a text is being applied. -/
def sampleStopped : LinuxHost :=
  ⟨some .signalTerm, [], 1, [.shutdown], some (.input 0 (.text "a"), [.type "a"]), false, none,
    false, [0], []⟩

def sampleEnded : LinuxHost :=
  ⟨some .signalTerm, [], 1, [], none, false, none, true, [0], [(some 0, .type "a")]⟩

theorem sampleStopped_quiet : Quiet sampleStopped sampleEnded :=
  @run_stopped sampleParse sampleNumber
    [.data (sampleLine "a" ++ [0x0a]), .begins, .stop .signalTerm]
    [.mutates, .ends, .begins, .ends, .data (sampleLine "b" ++ [0x0a])] sampleStopped sampleEnded
    (run_guarded_of_execute (by decide +kernel)) (by decide)
    (run_guarded_of_execute (by decide +kernel))

/-- The host is stopped while one text is being applied and another waits. -/
def sampleWaiting : LinuxHost :=
  ⟨some .signalTerm, [], 2, [.input 1 (.text "b"), .shutdown],
    some (.input 0 (.text "a"), [.type "a"]), false, none, false, [0], []⟩

def sampleDrained : LinuxHost :=
  ⟨some .signalTerm, [], 2, [.shutdown], some (.input 1 (.text "b"), []), false, none, false,
    [1, 0], [(some 1, .type "b"), (some 0, .type "a")]⟩

/-- The text that waits when the signal comes is typed after the stop. -/
theorem sampleWaiting_begun :
    Run (Step sampleParse sampleNumber) initial
      [.data (sampleLine "a" ++ 0x0a :: sampleLine "b" ++ [0x0a]), .begins, .stop .signalTerm]
      sampleWaiting ∧
    Run (Step sampleParse sampleNumber) sampleWaiting [.mutates, .ends, .begins, .mutates]
      sampleDrained ∧
    sampleWaiting.stopReason = some .signalTerm ∧ sampleDrained.begun ≠ sampleWaiting.begun ∧
    (some 1, .type "b") ∈ sampleDrained.mutations :=
  ⟨(run_iff_execute _ _ _ _).mpr (by decide +kernel),
    (run_iff_execute _ _ _ _).mpr (by decide +kernel), rfl, by decide, by decide⟩

end LinuxHost

end ExecutionHandoff.Host
