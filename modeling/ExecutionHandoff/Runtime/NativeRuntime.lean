import ExecutionHandoff.Library.Custody
import ExecutionHandoff.Library.OrderedMap
import ExecutionHandoff.Library.Runs

/-!
# The native runtime provider

`InheritedFdNativeRuntimeProvider`: hosts that are spawned, registered once they
have started, and revoked by a sender process of its own.  Hosts are named in
the order they are spawned; the root key and the session hash of a bootstrap are
those of its host.  What is passed to the processes is left out.
-/

namespace ExecutionHandoff.Runtime

open Library List
open OrderedMap (get?_delete_ne get?_delete get?_set_ne)

structure NativeTakeoverClientEndpoint where
  clientHost : String
  videoPort : Nat
  inputFeedbackPort : Nat
  deriving DecidableEq

structure NativeTakeoverRuntimeBinding where
  takeoverSessionId : String
  interventionId : String
  epoch : Int
  principalBinding : String
  clientGeneration : Int
  expiresAt : Int
  targetProcessId : Option Int
  targetWindowId : Option Int
  deriving DecidableEq

structure NativeTakeoverNetworkBootstrap where
  host : String
  videoPort : Nat
  inputPort : Nat
  videoFeedbackPort : Nat
  inputFeedbackPort : Nat
  deriving DecidableEq

structure NativeTakeoverClientBootstrap where
  secretsOf : Nat
  epoch : Int
  network : NativeTakeoverNetworkBootstrap
  deriving DecidableEq

inductive NativeTakeoverRuntimeErrorCode where
  | bootstrapAlreadyIssued
  | runtimeStartFailed
  | runtimeRevokeFailed
  deriving DecidableEq

structure NativeTakeoverRuntimeError where
  code : NativeTakeoverRuntimeErrorCode
  message : String
  deriving DecidableEq

namespace NativeTakeoverRuntimeError

def untargeted : NativeTakeoverRuntimeError :=
  ⟨.runtimeStartFailed, "native target window requires a target process"⟩
def alreadyIssued : NativeTakeoverRuntimeError :=
  ⟨.bootstrapAlreadyIssued, "native bootstrap for this client generation has already been issued"⟩
def startFailed (message : String) : NativeTakeoverRuntimeError :=
  ⟨.runtimeStartFailed, "native runtime failed to start: " ++ message⟩
def revokeFailed (message : String) : NativeTakeoverRuntimeError :=
  ⟨.runtimeRevokeFailed, "native runtime revoke failed: " ++ message⟩

end NativeTakeoverRuntimeError

structure InheritedFdNativeRuntimeProviderConfig where
  advertisedHost : String
  inputPort : Nat
  videoFeedbackPort : Nat

/-- A `begin` that awaits the start of its host. -/
structure Starting where
  host : Nat
  binding : NativeTakeoverRuntimeBinding
  endpoint : NativeTakeoverClientEndpoint
  deriving DecidableEq

/-- What goes on when a revocation is through. -/
inductive AfterRevoke where
  | done
  | begin (binding : NativeTakeoverRuntimeBinding) (endpoint : NativeTakeoverClientEndpoint)
  /-- The sessions `revokeForIntervention` still has to revoke. -/
  | rest (ids : List String)
  deriving DecidableEq

/-- A `revoke` that awaits its sender, and then the exit of the host. -/
structure Revoking where
  host : Nat
  sent : Bool
  after : AfterRevoke
  deriving DecidableEq

/-- `gone` are the hosts that have exited, never started or were told to terminate; `answers` is
what the calls of `begin` came to. -/
structure InheritedFdNativeRuntimeProvider where
  active : OrderedMap String Nat
  hosts : List NativeTakeoverRuntimeBinding
  gone : List Nat
  starting : List Starting
  revoking : List Revoking
  answers : List (NativeTakeoverRuntimeBinding ×
    Except NativeTakeoverRuntimeError NativeTakeoverClientBootstrap)
  deriving DecidableEq

inductive NativeEvent where
  | begin (binding : NativeTakeoverRuntimeBinding) (endpoint : NativeTakeoverClientEndpoint)
  | revoke (id : String)
  | revokeForIntervention (interventionId : String)
  | started (start : Starting)
  | failed (start : Starting) (message : String)
  /-- The host has started without the pipe for its key. -/
  | unkeyed (start : Starting)
  | sent (revocation : Revoking)
  | sendFailed (revocation : Revoking) (message : String)
  /-- The host has exited, or it was waited for long enough and is told to terminate. -/
  | waited (revocation : Revoking)
  | exit (host : Nat)
  deriving DecidableEq

namespace InheritedFdNativeRuntimeProvider

def initial : InheritedFdNativeRuntimeProvider := ⟨OrderedMap.empty, [], [], [], [], []⟩

variable (config : InheritedFdNativeRuntimeProviderConfig)
  (provider : InheritedFdNativeRuntimeProvider)

def answer (binding : NativeTakeoverRuntimeBinding)
    (outcome : Except NativeTakeoverRuntimeError NativeTakeoverClientBootstrap) :
    InheritedFdNativeRuntimeProvider :=
  { provider with answers := (binding, outcome) :: provider.answers }

def terminate (host : Nat) : InheritedFdNativeRuntimeProvider :=
  { provider with gone := host :: provider.gone }

/-- `begin` from its first random bytes up to the await. -/
def spawn (binding : NativeTakeoverRuntimeBinding) (endpoint : NativeTakeoverClientEndpoint) :
    InheritedFdNativeRuntimeProvider :=
  { provider with
    hosts := provider.hosts ++ [binding]
    starting := ⟨provider.hosts.length, binding, endpoint⟩ :: provider.starting }

/-- `revoke` of a registered host up to its await. -/
def beginRevoke (id : String) (host : Nat) (after : AfterRevoke) :
    InheritedFdNativeRuntimeProvider :=
  { provider with
    active := provider.active.delete id
    revoking := ⟨host, false, after⟩ :: provider.revoking }

def begin (binding : NativeTakeoverRuntimeBinding) (endpoint : NativeTakeoverClientEndpoint) :
    InheritedFdNativeRuntimeProvider :=
  if binding.targetWindowId.isSome ∧ binding.targetProcessId = none then
    provider.answer binding (.error .untargeted)
  else
    match provider.active.get? binding.takeoverSessionId with
    | none => provider.spawn binding endpoint
    | some host =>
        if (provider.hosts[host]?).any fun existing =>
            existing.clientGeneration == binding.clientGeneration then
          provider.answer binding (.error .alreadyIssued)
        else
          provider.beginRevoke binding.takeoverSessionId host (.begin binding endpoint)

def revoke (id : String) : InheritedFdNativeRuntimeProvider :=
  match provider.active.get? id with
  | none => provider
  | some host => provider.beginRevoke id host .done

/-- The loop of `revokeForIntervention`, up to its next await. -/
def revokeAll : List String → InheritedFdNativeRuntimeProvider
  | [] => provider
  | id :: ids =>
      match provider.active.get? id with
      | none => revokeAll ids
      | some host => provider.beginRevoke id host (.rest ids)

def revokeForIntervention (interventionId : String) : InheritedFdNativeRuntimeProvider :=
  provider.revokeAll (provider.active.keysOf fun host =>
    (provider.hosts[host]?).any fun binding => binding.interventionId == interventionId)

def bootstrap (start : Starting) : NativeTakeoverClientBootstrap where
  secretsOf := start.host
  epoch := start.binding.epoch
  network :=
    { host := config.advertisedHost
      videoPort := start.endpoint.videoPort
      inputPort := config.inputPort
      videoFeedbackPort := config.videoFeedbackPort
      inputFeedbackPort := start.endpoint.inputFeedbackPort }

/-- The rest of `begin` once its host has started. -/
def register (start : Starting) : InheritedFdNativeRuntimeProvider :=
  { provider with
    active := provider.active.set start.binding.takeoverSessionId start.host }.answer
      start.binding (.ok (bootstrap config start))

/-- What awaited a revocation goes on. -/
def resume : AfterRevoke → InheritedFdNativeRuntimeProvider
  | .done => provider
  | .begin binding endpoint => provider.spawn binding endpoint
  | .rest ids => provider.revokeAll ids

/-- What awaited a revocation is rejected. -/
def reject (message : String) : AfterRevoke → InheritedFdNativeRuntimeProvider
  | .begin binding _ => provider.answer binding (.error (.revokeFailed message))
  | .done | .rest _ => provider

/-- The exit handler of a registered host, or an exit that nothing listens to. -/
def noteExit (host : Nat) : InheritedFdNativeRuntimeProvider :=
  { provider.terminate host with
    active := match provider.hosts[host]? with
      | none => provider.active
      | some binding =>
          if provider.active.get? binding.takeoverSessionId = some host then
            provider.active.delete binding.takeoverSessionId
          else
            provider.active }

def next : NativeEvent → Option InheritedFdNativeRuntimeProvider
  | .begin binding endpoint => some (provider.begin binding endpoint)
  | .revoke id => some (provider.revoke id)
  | .revokeForIntervention interventionId => some (provider.revokeForIntervention interventionId)
  | .started start =>
      if start ∈ provider.starting then
        some ({ provider with starting := provider.starting.erase start }.register config start)
      else
        none
  | .failed start message =>
      if start ∈ provider.starting then
        some (({ provider with starting := provider.starting.erase start }.terminate
          start.host).answer start.binding (.error (.startFailed message)))
      else
        none
  | .unkeyed start =>
      if start ∈ provider.starting then
        some ({ provider with starting := provider.starting.erase start }.answer start.binding
          (.error (.startFailed "missing host inherited key pipe")))
      else
        none
  | .sent revocation =>
      if revocation ∈ provider.revoking ∧ revocation.sent = false then
        some
          { provider with
            revoking := { revocation with sent := true } :: provider.revoking.erase revocation }
      else
        none
  | .sendFailed revocation message =>
      if revocation ∈ provider.revoking ∧ revocation.sent = false then
        some (({ provider with revoking := provider.revoking.erase revocation }.terminate
          revocation.host).reject message revocation.after)
      else
        none
  | .waited revocation =>
      if revocation ∈ provider.revoking ∧ revocation.sent then
        some (({ provider with revoking := provider.revoking.erase revocation }.terminate
          revocation.host).resume revocation.after)
      else
        none
  | .exit host =>
      if host < provider.hosts.length ∧ ∀ start ∈ provider.starting, start.host ≠ host then
        some (provider.noteExit host)
      else
        none

abbrev Step : InheritedFdNativeRuntimeProvider → NativeEvent →
    InheritedFdNativeRuntimeProvider → Prop :=
  StepOf (next config)

/-! ## Who holds a host -/

variable {config : InheritedFdNativeRuntimeProviderConfig}
  {provider provider' : InheritedFdNativeRuntimeProvider}

/-- A host is registered for its session, or a pending step has it in hand. -/
def Holds (provider : InheritedFdNativeRuntimeProvider) (host : Nat)
    (binding : NativeTakeoverRuntimeBinding) : Prop :=
  provider.active.get? binding.takeoverSessionId = some host ∨
    (∃ start ∈ provider.starting, start.host = host) ∨
    ∃ revocation ∈ provider.revoking, revocation.host = host

/-- The sessions and client generations for which a bootstrap was handed out. -/
def issued (provider : InheritedFdNativeRuntimeProvider) : List (String × Int) :=
  provider.answers.filterMap fun
    | (binding, .ok _) => some (binding.takeoverSessionId, binding.clientGeneration)
    | (_, .error _) => none

/-- A host that is starting is the only one of its session, for a new client generation. -/
structure Alone (provider : InheritedFdNativeRuntimeProvider) (start : Starting) : Prop where
  placed : provider.hosts[start.host]? = some start.binding
  free : provider.active.get? start.binding.takeoverSessionId = none
  fresh : (start.binding.takeoverSessionId, start.binding.clientGeneration) ∉ provider.issued

structure Sound (provider : InheritedFdNativeRuntimeProvider) : Prop where
  accounted : Accounted provider.hosts provider.gone provider.Holds
  apart : (provider.starting.map fun start => start.binding.takeoverSessionId).Nodup
  alone : ∀ start ∈ provider.starting, Alone provider start
  once : provider.issued.Nodup

theorem initial_sound : Sound initial where
  accounted := .empty _
  apart := nodup_nil
  alone := fun _ no => by cases no
  once := nodup_nil

/-! ## What spawns a host -/

/-- The binding a host is spawned for in this step. -/
def spawns (provider : InheritedFdNativeRuntimeProvider) :
    NativeEvent → Option NativeTakeoverRuntimeBinding
  | .begin binding _ =>
      if binding.targetWindowId.isSome ∧ binding.targetProcessId = none then none
      else if provider.active.get? binding.takeoverSessionId = none then some binding else none
  | .waited revocation =>
      match revocation.after with
      | .begin binding _ => some binding
      | .done | .rest _ => none
  | _ => none

/-- No host of the session is registered or starting, and its client generation has not got a
bootstrap. -/
def Clear (provider : InheritedFdNativeRuntimeProvider) (binding : NativeTakeoverRuntimeBinding) :
    Prop :=
  provider.active.get? binding.takeoverSessionId = none ∧
    (∀ start ∈ provider.starting,
      start.binding.takeoverSessionId ≠ binding.takeoverSessionId) ∧
    (binding.takeoverSessionId, binding.clientGeneration) ∉ provider.issued

/-- Hosts are spawned only for sessions that are clear, and start with the pipe for their key. -/
def Unraced (provider : InheritedFdNativeRuntimeProvider) (event : NativeEvent) : Prop :=
  (∀ binding ∈ provider.spawns event, provider.Clear binding) ∧ ∀ start, event ≠ .unkeyed start

/-! ## Pieces -/

theorem sound_error (sound : Sound provider) (binding : NativeTakeoverRuntimeBinding)
    (error : NativeTakeoverRuntimeError) : Sound (provider.answer binding (.error error)) :=
  ⟨sound.accounted, sound.apart,
    fun start mem => ⟨(sound.alone start mem).placed, (sound.alone start mem).free,
      (sound.alone start mem).fresh⟩, sound.once⟩

theorem sound_spawn {binding : NativeTakeoverRuntimeBinding} (sound : Sound provider)
    (clear : provider.Clear binding) (endpoint : NativeTakeoverClientEndpoint) :
    Sound (provider.spawn binding endpoint) := by
  obtain ⟨free, apart, fresh⟩ := clear
  refine ⟨?_, ?_, ?_, sound.once⟩
  · refine sound.accounted.issue ?_ ?_
    · exact .inr (.inl ⟨_, mem_cons_self, rfl⟩)
    · rintro host owner (registered | ⟨start, mem, same⟩ | revoking)
      · exact .inl registered
      · exact .inr (.inl ⟨start, mem_cons_of_mem _ mem, same⟩)
      · exact .inr (.inr revoking)
  · refine nodup_cons.mpr ⟨fun mem => ?_, sound.apart⟩
    obtain ⟨start, mem, same⟩ := mem_map.mp mem
    exact apart start mem same
  · intro start mem
    rcases mem_cons.mp mem with rfl | mem
    · refine ⟨?_, free, fresh⟩
      change (provider.hosts ++ [binding])[provider.hosts.length]? = some binding
      rw [getElem?_append_right (Nat.le_refl _), Nat.sub_self]
      rfl
    · obtain ⟨placed, free, fresh⟩ := sound.alone start mem
      obtain ⟨within, _⟩ := List.getElem?_eq_some_iff.mp placed
      refine ⟨?_, free, fresh⟩
      change (provider.hosts ++ [binding])[start.host]? = some start.binding
      rw [getElem?_append_left within]
      exact placed

theorem sound_beginRevoke {id : String} {host : Nat} (sound : Sound provider)
    (registered : provider.active.get? id = some host) (after : AfterRevoke) :
    Sound (provider.beginRevoke id host after) := by
  refine ⟨sound.accounted.moved ?_, sound.apart, ?_, sound.once⟩
  · rintro other owner (held | starting | ⟨revocation, mem, same⟩)
    · by_cases here : owner.takeoverSessionId = id
      · rw [here] at held
        cases registered.symm.trans held
        exact .inr (.inr ⟨_, mem_cons_self, rfl⟩)
      · exact .inl ((get?_delete_ne provider.active here).trans held)
    · exact .inr (.inl starting)
    · exact .inr (.inr ⟨revocation, mem_cons_of_mem _ mem, same⟩)
  · intro start mem
    obtain ⟨placed, free, fresh⟩ := sound.alone start mem
    refine ⟨placed, ?_, fresh⟩
    change (provider.active.delete id).get? _ = none
    rw [get?_delete, free, ite_self]

theorem sound_revokeAll (sound : Sound provider) (ids : List String) :
    Sound (provider.revokeAll ids) := by
  induction ids with
  | nil => exact sound
  | cons id ids ih =>
      unfold revokeAll
      split
      · exact ih
      · rename_i host registered
        exact sound_beginRevoke sound registered _

/-- A host that is gone need not be held. -/
theorem sound_gone {host : Nat} {starting : List Starting} {revoking : List Revoking}
    (sound : Sound provider) (fewer : starting.Sublist provider.starting)
    (left : ∀ start ∈ provider.starting, start ∈ starting ∨ start.host = host)
    (waiting : ∀ revocation ∈ provider.revoking, revocation ∈ revoking ∨ revocation.host = host) :
    Sound { provider with gone := host :: provider.gone, starting, revoking } := by
  refine ⟨sound.accounted.passed (fun _ gone => mem_cons_of_mem _ gone) ?_,
    (fewer.map _).nodup sound.apart, fun start mem => ?_, sound.once⟩
  · rintro other owner (registered | ⟨start, mem, rfl⟩ | ⟨revocation, mem, rfl⟩)
    · exact .inr (.inl registered)
    · rcases left start mem with mem | rfl
      · exact .inr (.inr (.inl ⟨start, mem, rfl⟩))
      · exact .inl mem_cons_self
    · rcases waiting revocation mem with mem | rfl
      · exact .inr (.inr (.inr ⟨revocation, mem, rfl⟩))
      · exact .inl mem_cons_self
  · obtain ⟨placed, free, fresh⟩ := sound.alone start (fewer.subset mem)
    exact ⟨placed, free, fresh⟩

theorem mem_erase_or {α : Type} [DecidableEq α] {item other : α} {items : List α}
    (mem : other ∈ items) : other ∈ items.erase item ∨ other = item := by
  by_cases same : other = item
  · exact .inr same
  · exact .inl ((mem_erase_of_ne same).mpr mem)

/-- The revocation is through, and its host has exited or is told to. -/
theorem sound_through (sound : Sound provider) (revocation : Revoking) :
    Sound ({ provider with revoking := provider.revoking.erase revocation }.terminate
      revocation.host) := by
  refine @sound_gone provider revocation.host provider.starting
    (provider.revoking.erase revocation) sound (.refl _) (fun _ mem => .inl mem) fun other mem => ?_
  rcases @mem_erase_or _ _ revocation other _ mem with mem | rfl
  · exact .inl mem
  · exact .inr rfl

/-- The host that has started is registered, where nothing was. -/
theorem sound_register {start : Starting} (sound : Sound provider)
    (mem : start ∈ provider.starting) :
    Sound ({ provider with starting := provider.starting.erase start }.register config start) := by
  obtain ⟨placed, free, fresh⟩ := sound.alone start mem
  have fewer := (erase_sublist : (provider.starting.erase start).Sublist provider.starting)
  have others {other : Starting} (mem' : other ∈ provider.starting.erase start) :
      other.binding.takeoverSessionId ≠ start.binding.takeoverSessionId := by
    have split := perm_cons_erase mem
    have apart := (split.map fun start => start.binding.takeoverSessionId).nodup_iff.mp sound.apart
    intro same
    exact (nodup_cons.mp apart).1 (mem_map.mpr ⟨other, mem', same⟩)
  refine ⟨?_, (fewer.map _).nodup sound.apart, ?_, ?_⟩
  · intro host owner found
    rcases sound.accounted host owner found with gone | registered | ⟨other, mem', same⟩ | revoking
    · exact .inl gone
    · refine .inr (.inl ?_)
      have elsewhere : owner.takeoverSessionId ≠ start.binding.takeoverSessionId := by
        intro same
        rw [same, free] at registered
        cases registered
      exact (get?_set_ne provider.active start.host elsewhere).trans registered
    · rcases @mem_erase_or _ _ start other _ mem' with mem' | rfl
      · exact .inr (.inr (.inl ⟨other, mem', same⟩))
      · subst same
        cases placed.symm.trans found
        exact .inr (.inl (OrderedMap.get?_set_self _ _ _))
    · exact .inr (.inr (.inr revoking))
  · intro other mem'
    obtain ⟨placed', free', fresh'⟩ := sound.alone other (fewer.subset mem')
    refine ⟨placed', ?_, ?_⟩
    · exact (get?_set_ne provider.active start.host (others mem')).trans free'
    · intro issued
      rcases mem_cons.mp issued with same | issued
      · exact others mem' (Prod.mk.inj same).1
      · exact fresh' issued
  · exact nodup_cons.mpr ⟨fresh, sound.once⟩

theorem sound_noteExit (sound : Sound provider) (host : Nat)
    (within : host < provider.hosts.length) : Sound (provider.noteExit host) := by
  have gone : Sound (provider.terminate host) :=
    sound_gone sound (.refl _) (fun _ mem => .inl mem) fun _ mem => .inl mem
  have found : provider.hosts[host]? = some provider.hosts[host] := getElem?_eq_getElem within
  unfold noteExit
  rw [found]
  dsimp only
  split
  · rename_i registered
    refine ⟨gone.accounted.passed (fun _ gone => gone) ?_, gone.apart, fun start mem => ?_,
      gone.once⟩
    · rintro other owner (held | held)
      · by_cases here : owner.takeoverSessionId = provider.hosts[host].takeoverSessionId
        · rw [here] at held
          cases registered.symm.trans held
          exact .inl mem_cons_self
        · exact .inr (.inl ((get?_delete_ne provider.active here).trans held))
      · exact .inr (.inr held)
    · obtain ⟨placed, free, fresh⟩ := gone.alone start mem
      refine ⟨placed, ?_, fresh⟩
      change (provider.active.delete _).get? _ = none
      rw [get?_delete]
      split
      · rfl
      · exact free
  · exact gone

/-! ## Steps -/

theorem step_sound {event : NativeEvent} (step : Step config provider event provider')
    (unraced : provider.Unraced event) (sound : Sound provider) : Sound provider' := by
  change next config provider event = some provider' at step
  cases event with
  | begin binding endpoint =>
      cases step
      have spawned := unraced.1 binding
      unfold begin
      unfold spawns at spawned
      dsimp only at spawned
      split
      · exact sound_error sound binding _
      · rename_i targeted
        rw [if_neg targeted] at spawned
        split
        · rename_i free
          exact sound_spawn sound (spawned (if_pos free)) endpoint
        · rename_i host registered
          split
          · exact sound_error sound binding _
          · exact sound_beginRevoke sound registered _
  | revoke id =>
      cases step
      unfold revoke
      split
      · exact sound
      · rename_i host registered
        exact sound_beginRevoke sound registered _
  | revokeForIntervention interventionId =>
      cases step
      exact sound_revokeAll sound _
  | started start =>
      change (if _ then _ else _) = some provider' at step
      split at step
      · rename_i mem
        cases step
        exact sound_register sound mem
      · cases step
  | failed start message =>
      change (if _ then _ else _) = some provider' at step
      split at step
      · cases step
        refine sound_error (sound_gone sound erase_sublist (fun other mem => ?_)
          fun _ mem => .inl mem) start.binding _
        rcases @mem_erase_or _ _ start other _ mem with mem | rfl
        · exact .inl mem
        · exact .inr rfl
      · cases step
  | unkeyed start => exact absurd rfl (unraced.2 start)
  | sent revocation =>
      change (if _ then _ else _) = some provider' at step
      split at step
      · cases step
        refine ⟨sound.accounted.moved ?_, sound.apart, fun start mem => ?_, sound.once⟩
        · rintro host owner (registered | starting | ⟨other, mem, same⟩)
          · exact .inl registered
          · exact .inr (.inl starting)
          · rcases @mem_erase_or _ _ revocation other _ mem with mem | rfl
            · exact .inr (.inr ⟨other, mem_cons_of_mem _ mem, same⟩)
            · exact .inr (.inr ⟨_, mem_cons_self, same⟩)
        · obtain ⟨placed, free, fresh⟩ := sound.alone start mem
          exact ⟨placed, free, fresh⟩
      · cases step
  | sendFailed revocation message =>
      change (if _ then _ else _) = some provider' at step
      split at step
      · cases step
        have gone := sound_through sound revocation
        cases revocation.after with
        | begin binding endpoint => exact sound_error gone binding _
        | done => exact gone
        | rest ids => exact gone
      · cases step
  | waited revocation =>
      change (if _ then _ else _) = some provider' at step
      split at step
      · cases step
        have gone := sound_through sound revocation
        have spawned := unraced.1
        unfold spawns at spawned
        dsimp only at spawned
        cases after : revocation.after with
        | begin binding endpoint =>
            rw [after] at spawned
            exact sound_spawn gone (spawned binding rfl) endpoint
        | done => exact gone
        | rest ids => exact sound_revokeAll gone ids
      · cases step
  | exit host =>
      change (if _ then _ else _) = some provider' at step
      split at step
      · rename_i runs
        cases step
        exact sound_noteExit sound host runs.1
      · cases step

/-! ## Exits and failures -/

/-- The host whose exit or failure an event reports. -/
def troubled : NativeEvent → Option Nat
  | .failed start _ | .unkeyed start => some start.host
  | .sendFailed revocation _ => some revocation.host
  | .exit host => some host
  | _ => none

theorem troubled_keeps {event : NativeEvent} (step : Step config provider event provider')
    {host newer : Nat} (trouble : troubled event = some host) (other : newer ≠ host) {id : String}
    (registered : provider.active.get? id = some newer) :
    provider'.active.get? id = some newer := by
  change next config provider event = some provider' at step
  cases event with
  | failed start message =>
      change (if _ then _ else _) = some provider' at step
      split at step
      · cases step
        exact registered
      · cases step
  | unkeyed start =>
      change (if _ then _ else _) = some provider' at step
      split at step
      · cases step
        exact registered
      · cases step
  | sendFailed revocation message =>
      change (if _ then _ else _) = some provider' at step
      split at step
      · cases step
        cases revocation.after with
        | begin binding endpoint => exact registered
        | done => exact registered
        | rest ids => exact registered
      · cases step
  | exit host' =>
      cases trouble
      change (if _ then _ else _) = some provider' at step
      split at step
      · cases step
        unfold noteExit
        dsimp only
        split
        · exact registered
        · rename_i binding found
          split
          · rename_i here
            have elsewhere : id ≠ binding.takeoverSessionId := by
              rintro rfl
              exact other (Option.some.inj (registered.symm.trans here))
            exact (get?_delete_ne provider.active elsewhere).trans registered
          · exact registered
      · cases step
  | begin _ _ | revoke _ | revokeForIntervention _ | started _ | sent _ | waited _ => cases trouble

/-! ## Runs -/

/-- When hosts are spawned only for clear sessions, no session and client generation gets two
bootstraps, every host is registered or gone once nothing is pending, and the exit or failure of
a host leaves every other one registered. -/
theorem run_owned {events : List NativeEvent} {last : InheritedFdNativeRuntimeProvider}
    (run : Run (Guarded (Step config) Unraced) initial events last) :
    last.issued.Nodup ∧
    (last.starting = [] → last.revoking = [] → ∀ host binding,
      last.hosts[host]? = some binding →
      host ∈ last.gone ∨ last.active.get? binding.takeoverSessionId = some host) ∧
    ∀ event after host, Step config last event after → troubled event = some host →
      ∀ id newer, newer ≠ host → last.active.get? id = some newer →
        after.active.get? id = some newer := by
  have sound : Sound last := by
    refine run.invariant ?_ initial_sound
    exact fun step sound => step_sound step.1 step.2 sound
  refine ⟨sound.once, fun started revoked host binding found => ?_, ?_⟩
  · rcases sound.accounted host binding found with gone | registered | ⟨start, mem, _⟩ |
      ⟨revocation, mem, _⟩
    · exact .inl gone
    · exact .inr registered
    · rw [started] at mem
      cases mem
    · rw [revoked] at mem
      cases mem
  · exact fun event after host step trouble id newer other registered =>
      troubled_keeps step trouble other registered

/-! ## Sample hosts -/

instance (provider : InheritedFdNativeRuntimeProvider) (binding : NativeTakeoverRuntimeBinding) :
    Decidable (provider.Clear binding) :=
  inferInstanceAs (Decidable (_ ∧ _ ∧ _))

instance keyed : (event : NativeEvent) → Decidable (∀ start, event ≠ .unkeyed start)
  | .unkeyed start => .isFalse fun keyed => keyed start rfl
  | .begin _ _ | .revoke _ | .revokeForIntervention _ | .started _ | .failed _ _ | .sent _
  | .sendFailed _ _ | .waited _ | .exit _ => .isTrue fun _ same => by cases same

instance (provider : InheritedFdNativeRuntimeProvider) (event : NativeEvent) :
    Decidable (provider.Unraced event) :=
  inferInstanceAs (Decidable (_ ∧ _))

def sampleConfig : InheritedFdNativeRuntimeProviderConfig := ⟨"127.0.0.1", 45556, 45558⟩

def sampleEndpoint : NativeTakeoverClientEndpoint := ⟨"127.0.0.1", 50000, 50001⟩

def sampleBinding (clientGeneration : Int) : NativeTakeoverRuntimeBinding :=
  ⟨"session", "intervention", 1, "principal", clientGeneration, 60000, none, none⟩

def sampleStart (host : Nat) (clientGeneration : Int) : Starting :=
  ⟨host, sampleBinding clientGeneration, sampleEndpoint⟩

/-- The next client generation replaces the host of the first. -/
def sampleReplacement : List NativeEvent :=
  [.begin (sampleBinding 1) sampleEndpoint, .started (sampleStart 0 1),
    .begin (sampleBinding 2) sampleEndpoint,
    .sent ⟨0, false, .begin (sampleBinding 2) sampleEndpoint⟩,
    .waited ⟨0, true, .begin (sampleBinding 2) sampleEndpoint⟩, .started (sampleStart 1 2)]

def sampleReplaced : InheritedFdNativeRuntimeProvider where
  active := ⟨[("session", 1)], by decide⟩
  hosts := [sampleBinding 1, sampleBinding 2]
  gone := [0]
  starting := []
  revoking := []
  answers :=
    [(sampleBinding 2, .ok (bootstrap sampleConfig (sampleStart 1 2))),
      (sampleBinding 1, .ok (bootstrap sampleConfig (sampleStart 0 1)))]

theorem sampleReplacement_owned :
    sampleReplaced.issued.Nodup ∧
    (sampleReplaced.starting = [] → sampleReplaced.revoking = [] → ∀ host binding,
      sampleReplaced.hosts[host]? = some binding →
      host ∈ sampleReplaced.gone ∨
        sampleReplaced.active.get? binding.takeoverSessionId = some host) ∧
    ∀ event after host, Step sampleConfig sampleReplaced event after → troubled event = some host →
      ∀ id newer, newer ≠ host → sampleReplaced.active.get? id = some newer →
        after.active.get? id = some newer :=
  @run_owned sampleConfig sampleReplacement sampleReplaced (run_guarded_of_execute (by
    decide +kernel))

/-- Two calls for one client generation both find no host: both get a bootstrap, and the host of
the first runs on, unregistered. -/
theorem sampleOverlap_orphaned :
    ∃ last, Run (Step sampleConfig) initial
      [.begin (sampleBinding 1) sampleEndpoint, .begin (sampleBinding 1) sampleEndpoint,
        .started (sampleStart 0 1), .started (sampleStart 1 1)] last ∧
      last.issued = [("session", 1), ("session", 1)] ∧
      last.starting = [] ∧ last.revoking = [] ∧ 0 ∉ last.gone ∧
      last.active.get? "session" = some 1 :=
  ⟨_, (run_iff_execute _ _ _ _).mpr rfl, by decide, rfl, rfl, by decide, by decide⟩

end InheritedFdNativeRuntimeProvider

end ExecutionHandoff.Runtime
