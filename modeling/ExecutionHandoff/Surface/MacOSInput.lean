import ExecutionHandoff.Library.LineStream
import ExecutionHandoff.Library.Requests
import ExecutionHandoff.Library.Runs
import ExecutionHandoff.WebSocket.Messages

/-!
# Input acknowledgements on the macOS window surface

One helper record of `MacOSWebSocketWindowSurface`, with the host process behind
it.  Inputs are written one at a time, and the report that arrives settles
whatever input waits.  The records of a surface share which of them is the
active one and whether the authority boundary is lost; both are changed here
from outside.
-/

namespace ExecutionHandoff.Surface

open Library List
open WebSocket (utf8Length)
open Option (map_eq_some_iff)

inductive MacOSSurfaceErrorCode where
  | authorityLost
  | inputRejected
  | helperFailure
  deriving DecidableEq

/-- An error of the surface's own, or a plain one. -/
inductive MacOSSurfaceError where
  | surface (code : MacOSSurfaceErrorCode) (message : String)
  | plain (message : String)
  deriving DecidableEq

namespace MacOSSurfaceError

def authorityLost : MacOSSurfaceError :=
  .surface .authorityLost "macOS WSS exact-window authority was lost"
def rejected : MacOSSurfaceError :=
  .surface .inputRejected "macOS WSS exact-window input was rejected"
def unavailable : MacOSSurfaceError := .surface .helperFailure "macOS WSS helper is unavailable"
def timedOut : MacOSSurfaceError :=
  .surface .helperFailure "macOS WSS helper input acknowledgement timed out"
def unwritten : MacOSSurfaceError :=
  .surface .helperFailure "macOS WSS helper input write failed"
def unbounded : MacOSSurfaceError :=
  .surface .helperFailure "macOS WSS helper diagnostics exceeded bounds"
def stopped : MacOSSurfaceError := .plain "macOS WSS helper stopped"

end MacOSSurfaceError

/-! ## The host -/

/-- What became of an input in the host; a line that is no input leaves no report. -/
inductive HostReport where
  | applied
  | rejected
  | activationFailed
  | authorityLost
  | ignored
  deriving DecidableEq

def stageLine (stage : String) : List Char :=
  ("MCP_HANDOFF_DIAGNOSTIC input_stage=" ++ stage).toList

/-- The injector's own line stands before that of the reader. -/
def HostReport.lines : HostReport → List (List Char)
  | .applied => [stageLine "applied"]
  | .rejected => [stageLine "rejected"]
  | .activationFailed => [stageLine "activation_failed", stageLine "rejected"]
  | .authorityLost => [stageLine "authority_lost", stageLine "rejected"]
  | .ignored => []

inductive HostCommand where
  | input (input : Nat)
  | stop
  deriving DecidableEq

/-- The host with what has been written to it and what it has printed, as far as neither has been
read yet; the lines of a report are printed one by one. -/
structure MacOSHost where
  stopped : Bool
  stdin : List HostCommand
  unprinted : List (List Char)
  stderr : List Char
  handled : List (Nat × HostReport)
  deriving DecidableEq

namespace MacOSHost

def initial : MacOSHost := ⟨false, [], [], [], []⟩

variable (host : MacOSHost)

def write (command : HostCommand) : MacOSHost :=
  { host with stdin := host.stdin ++ [command] }

/-- A turn of the reader. -/
def turn (report : HostReport) : Option MacOSHost :=
  if host.stopped ∨ host.unprinted ≠ [] then
    none
  else
    match host.stdin with
    | [] => none
    | .input input :: rest =>
        some
          { host with
            stdin := rest, unprinted := report.lines, handled := (input, report) :: host.handled }
    | .stop :: rest => some { host with stdin := rest, stopped := true }

def print : Option MacOSHost :=
  match host.unprinted with
  | [] => none
  | line :: rest =>
      some { host with unprinted := rest, stderr := host.stderr ++ writeLines [line] }

/-- The lines by which the host reports on an input. -/
def reports : List (List Char) :=
  [stageLine "applied", stageLine "rejected", stageLine "activation_failed",
    stageLine "authority_lost"]

/-- Any other line the host prints. -/
def say (line : List Char) : Option MacOSHost :=
  if '\n' ∈ line ∨ line ∈ reports then none
  else some { host with stderr := host.stderr ++ writeLines [line] }

end MacOSHost

theorem HostReport.lines_unbroken (report : HostReport) : Unbroken report.lines := by
  unfold Unbroken
  cases report <;> decide +kernel

/-- Only an applied input is reported as applied. -/
theorem HostReport.applied_of_line {report : HostReport}
    (line : stageLine "applied" ∈ report.lines) : report = .applied := by
  revert line
  cases report <;> decide +kernel

/-- The reports that an input was not applied. -/
def HostReport.refuses (report : HostReport) : Prop :=
  report = .rejected ∨ report = .activationFailed ∨ report = .authorityLost

theorem HostReport.refuses_of_line {report : HostReport} {line : List Char}
    (refused : line = stageLine "rejected" ∨ line = stageLine "activation_failed")
    (mem : line ∈ report.lines) : report.refuses := by
  unfold refuses
  rcases refused with rfl | rfl
  · revert mem
    cases report <;> decide +kernel
  · revert mem
    cases report <;> decide +kernel

/-! ## The record of a helper -/

/-- `inputs` counts the inputs that were given to this helper; each is named by its number. -/
structure ActiveMacOSSurface where
  failed : Bool
  stopping : Bool
  stderrBuffer : List Char
  pendingInputAck : Option Nat
  inputs : Nat
  inputChain : List Nat
  outcomes : List (Nat × Except MacOSSurfaceError Unit)
  active : Bool
  boundaryLost : Bool
  host : MacOSHost
  deriving DecidableEq

def maxDiagnosticBufferBytes : Nat := 8 * 1024

inductive MacOSInputEvent where
  /-- An input for which this helper was ensured. -/
  | input
  /-- The chain reaches its next input. -/
  | begin
  | timeout
  | writeFailed (input : Nat)
  /-- So many characters of what the host printed arrive. -/
  | data (count : Nat)
  /-- The host or its frames have failed, or its streams have closed. -/
  | failed (message : String)
  | stop
  /-- Another helper becomes the active one, or none does. -/
  | replaced
  /-- The boundary is lost by something other than a line of this helper. -/
  | boundaryLost
  | turn (report : HostReport)
  | print
  | say (line : List Char)
  deriving DecidableEq

namespace ActiveMacOSSurface

def initial : ActiveMacOSSurface :=
  ⟨false, false, [], none, 0, [], [], true, false, .initial⟩

variable (successor : Bool) (surface : ActiveMacOSSurface)

def settle (input : Nat) (outcome : Except MacOSSurfaceError Unit) : ActiveMacOSSurface :=
  { surface with pendingInputAck := none, outcomes := (input, outcome) :: surface.outcomes }

def settleInput (outcome : Except MacOSSurfaceError Unit) : ActiveMacOSSurface :=
  match surface.pendingInputAck with
  | none => surface
  | some input => surface.settle input outcome

def failActive (error : MacOSSurfaceError) : ActiveMacOSSurface :=
  if surface.failed then surface
  else { surface with failed := true }.settleInput (.error error)

def noteAuthorityLoss : ActiveMacOSSurface :=
  { surface with boundaryLost := true }

def stopActive : ActiveMacOSSurface :=
  { { surface with stopping := true }.settleInput (.error .stopped) with
    host := surface.host.write .stop }

def input : ActiveMacOSSurface :=
  { surface with inputs := surface.inputs + 1, inputChain := surface.inputChain ++ [surface.inputs] }

/-- An input is written only then; its turn in the chain comes when no other one waits. -/
def available : Bool := !surface.boundaryLost && !surface.failed && surface.active

def begin (input : Nat) : ActiveMacOSSurface :=
  if surface.boundaryLost then surface.settle input (.error .authorityLost)
  else if surface.failed || !surface.active then surface.settle input (.error .unavailable)
  else { surface with pendingInputAck := some input, host := surface.host.write (.input input) }

/-- The chain goes on once the input before has settled. -/
def advanceChain : Option ActiveMacOSSurface :=
  match surface.pendingInputAck, surface.inputChain with
  | none, input :: rest => some ({ surface with inputChain := rest }.begin input)
  | _, _ => none

/-! ## Diagnostics -/

def editablePrefix : List Char := "MCP_HANDOFF_CONTROL editable_regions=".toList

def successorPrefix : List Char := "MCP_HANDOFF_DIAGNOSTIC successor_stage=".toList

def lostLines : List (List Char) :=
  [stageLine "authority_lost", "MCP_HANDOFF_DIAGNOSTIC capture_stage=authority_lost".toList,
    "MCP_HANDOFF_DIAGNOSTIC host_exit_reason=window_resolution".toList]

/-- `parseSuccessorStage`. -/
def successorStage (line : List Char) : Option String :=
  if successorPrefix.isPrefixOf line then
    let stage := String.ofList (line.drop successorPrefix.length)
    if stage ∈ ["probe_started", "admitted", "returned", "none", "ambiguous", "unsupported",
        "failure"] then
      some stage
    else
      none
  else
    none

/-- A complete line; `successor` says whether a successor window may be followed. -/
def consumeLine (surface : ActiveMacOSSurface) (line : List Char) : ActiveMacOSSurface :=
  if editablePrefix.isPrefixOf line then
    surface
  else
    match (if successor then successorStage line else none) with
    | some stage =>
        if stage ∈ ["ambiguous", "unsupported", "failure"] then
          surface.noteAuthorityLoss.settleInput (.error .authorityLost)
        else
          surface
    | none =>
        if line = stageLine "applied" then surface.settleInput (.ok ())
        else if line ∈ lostLines then
          surface.noteAuthorityLoss.settleInput (.error .authorityLost)
        else if line = stageLine "rejected" ∨ line = stageLine "activation_failed" then
          surface.settleInput (.error .rejected)
        else
          surface

def consumeDiagnostics (chunk : List Char) : ActiveMacOSSurface :=
  if surface.failed then
    surface
  else
    let buffer := surface.stderrBuffer ++ chunk
    if maxDiagnosticBufferBytes < utf8Length (String.ofList buffer) then
      let failed := { surface with stderrBuffer := buffer }
      (if successor && !surface.stopping then failed.noteAuthorityLoss else failed).failActive
        .unbounded
    else
      { (readLines buffer).1.foldl (consumeLine successor) surface with
        stderrBuffer := (readLines buffer).2 }

/-! ## Steps -/

def next : MacOSInputEvent → Option ActiveMacOSSurface
  | .input => some surface.input
  | .begin => surface.advanceChain
  | .timeout =>
      surface.pendingInputAck.map fun input => surface.settle input (.error .timedOut)
  | .writeFailed input =>
      if surface.pendingInputAck = some input then some (surface.settle input (.error .unwritten))
      else some surface
  | .data count =>
      some ({ surface with
        host := { surface.host with stderr := surface.host.stderr.drop count } }.consumeDiagnostics
          successor (surface.host.stderr.take count))
  | .failed message => some (surface.failActive (.surface .helperFailure message))
  | .stop => some surface.stopActive
  | .replaced => some { surface with active := false }
  | .boundaryLost => some surface.noteAuthorityLoss
  | .turn report => (surface.host.turn report).map fun host => { surface with host }
  | .print => surface.host.print.map fun host => { surface with host }
  | .say line => (surface.host.say line).map fun host => { surface with host }

abbrev Step (successor : Bool) :
    ActiveMacOSSurface → MacOSInputEvent → ActiveMacOSSurface → Prop :=
  StepOf (next successor)

/-! ## Whose report it is -/

variable {successor : Bool} {surface surface' : ActiveMacOSSurface}

/-- What settles an input as applied or rejected is a report of the host on that input. -/
structure Truthful (surface : ActiveMacOSSurface) : Prop where
  applied : ∀ input, (input, .ok ()) ∈ surface.outcomes → (input, .applied) ∈ surface.host.handled
  rejected : ∀ input, (input, .error .rejected) ∈ surface.outcomes →
    ∃ report, report.refuses ∧ (input, report) ∈ surface.host.handled

/-- A line, if it is a report, is one on this input. -/
def About (host : MacOSHost) (input : Nat) (line : List Char) : Prop :=
  line ∈ MacOSHost.reports → ∃ report, (input, report) ∈ host.handled ∧ line ∈ report.lines

/-- Everything the host still owes or has under way is about one input. -/
structure Own (host : MacOSHost) (input : Nat) (unread : List (List Char)) : Prop where
  written : ∀ other, .input other ∈ host.stdin → other = input
  unread : ∀ line ∈ unread, About host input line
  unprinted : ∀ line ∈ host.unprinted, About host input line

structure Attributed (surface : ActiveMacOSSurface) : Prop where
  truthful : surface.Truthful
  whole : Unbroken surface.host.unprinted
  waits : ∀ input, surface.pendingInputAck = some input → surface.failed = false
  own : surface.failed = false → ∃ unread, Unbroken unread ∧
    surface.stderrBuffer ++ surface.host.stderr = writeLines unread ∧
    ∀ input, surface.pendingInputAck = some input → Own surface.host input unread

/-- No report is owed or under way when an input is written. -/
def Unowed (surface : ActiveMacOSSurface) (event : MacOSInputEvent) : Prop :=
  event = .begin → surface.available = true →
    (∀ command ∈ surface.host.stdin, command = .stop) ∧
    (∀ line ∈ (readLines (surface.stderrBuffer ++ surface.host.stderr)).1,
      line ∉ MacOSHost.reports) ∧
    ∀ line ∈ surface.host.unprinted, line ∉ MacOSHost.reports

instance (surface : ActiveMacOSSurface) (event : MacOSInputEvent) :
    Decidable (surface.Unowed event) :=
  inferInstanceAs (Decidable (_ → _ → _ ∧ _ ∧ _))

theorem truthful_of_keeps (truthful : Truthful surface)
    (outcomes : ∀ input, ((input, .ok ()) ∈ surface'.outcomes → (input, .ok ()) ∈ surface.outcomes) ∧
      ((input, .error .rejected) ∈ surface'.outcomes →
        (input, .error .rejected) ∈ surface.outcomes))
    (handled : ∀ record ∈ surface.host.handled, record ∈ surface'.host.handled) :
    Truthful surface' := by
  refine ⟨fun input mem => ?_, fun input mem => ?_⟩
  · exact handled _ (truthful.applied input ((outcomes input).1 mem))
  · obtain ⟨report, refuses, told⟩ := truthful.rejected input ((outcomes input).2 mem)
    exact ⟨report, refuses, handled _ told⟩

theorem settleInput_cases (surface : ActiveMacOSSurface)
    (outcome : Except MacOSSurfaceError Unit) :
    (surface.settleInput outcome).pendingInputAck = none ∧
      (surface.settleInput outcome).host = surface.host ∧
      (surface.settleInput outcome).failed = surface.failed ∧
      ((surface.settleInput outcome).outcomes = surface.outcomes ∨
        ∃ input, surface.pendingInputAck = some input ∧
          (surface.settleInput outcome).outcomes = (input, outcome) :: surface.outcomes) := by
  unfold settleInput
  split
  · exact ⟨‹_›, rfl, rfl, .inl rfl⟩
  · rename_i input waits
    exact ⟨rfl, rfl, rfl, .inr ⟨input, waits, rfl⟩⟩

/-- Other errors say nothing about what the host did. -/
theorem settle_error_truthful {error : MacOSSurfaceError} (truthful : Truthful surface)
    (other : error ≠ .rejected) (input : Nat) : Truthful (surface.settle input (.error error)) := by
  refine truthful_of_keeps truthful (fun input' => ⟨fun mem => ?_, fun mem => ?_⟩) fun _ mem => mem
  · rcases mem_cons.mp mem with same | mem
    · cases same
    · exact mem
  · rcases mem_cons.mp mem with same | mem
    · exact absurd (Except.error.inj (Prod.mk.inj same).2).symm other
    · exact mem

theorem settleInput_error_truthful {error : MacOSSurfaceError} (truthful : Truthful surface)
    (other : error ≠ .rejected) : Truthful (surface.settleInput (.error error)) := by
  unfold settleInput
  split
  · exact truthful
  · exact settle_error_truthful truthful other _

/-- Lines have been read: the input that waited may have settled. -/
structure Heard (first last : ActiveMacOSSurface) : Prop where
  truthful : Truthful last
  host : last.host = first.host
  failed : last.failed = first.failed
  waits : ∀ input, last.pendingInputAck = some input → first.pendingInputAck = some input

theorem Heard.refl (truthful : Truthful surface) : Heard surface surface :=
  ⟨truthful, rfl, rfl, fun _ waits => waits⟩

theorem heard_settleInput {outcome : Except MacOSSurfaceError Unit}
    (truthful : Truthful (surface.settleInput outcome)) :
    Heard surface (surface.settleInput outcome) := by
  obtain ⟨idle, host, failed, _⟩ := settleInput_cases surface outcome
  exact ⟨truthful, host, failed, fun input waits => by cases idle.symm.trans waits⟩

/-- An acknowledgement that is about the input that waits. -/
theorem settleInput_ok_truthful (truthful : Truthful surface)
    (about : ∀ input, surface.pendingInputAck = some input →
      About surface.host input (stageLine "applied")) :
    Truthful (surface.settleInput (.ok ())) := by
  unfold settleInput
  split
  · exact truthful
  · rename_i input waits
    obtain ⟨report, told, line⟩ := about input waits mem_cons_self
    cases report.applied_of_line line
    refine ⟨fun other mem => ?_, fun other mem => ?_⟩
    · rcases mem_cons.mp mem with same | mem
      · cases same
        exact told
      · exact truthful.applied other mem
    · rcases mem_cons.mp mem with same | mem
      · cases same
      · exact truthful.rejected other mem

/-- A rejection that is about the input that waits. -/
theorem settleInput_rejected_truthful {line : List Char} (truthful : Truthful surface)
    (refused : line = stageLine "rejected" ∨ line = stageLine "activation_failed")
    (about : ∀ input, surface.pendingInputAck = some input → About surface.host input line) :
    Truthful (surface.settleInput (.error .rejected)) := by
  unfold settleInput
  split
  · exact truthful
  · rename_i input waits
    have reported : line ∈ MacOSHost.reports := by
      rcases refused with rfl | rfl
      · exact mem_cons_of_mem _ mem_cons_self
      · exact mem_cons_of_mem _ (mem_cons_of_mem _ mem_cons_self)
    obtain ⟨report, told, mem⟩ := about input waits reported
    have refuses := HostReport.refuses_of_line refused mem
    refine ⟨fun other mem => ?_, fun other mem => ?_⟩
    · rcases mem_cons.mp mem with same | mem
      · cases same
      · exact truthful.applied other mem
    · rcases mem_cons.mp mem with same | mem
      · cases same
        exact ⟨report, refuses, told⟩
      · exact truthful.rejected other mem

theorem heard_lost (truthful : Truthful surface) :
    Heard surface (surface.noteAuthorityLoss.settleInput (.error .authorityLost)) := by
  have lost : Truthful surface.noteAuthorityLoss := ⟨truthful.applied, truthful.rejected⟩
  have after := @settleInput_error_truthful _ .authorityLost lost (by decide)
  obtain ⟨truthful, host, failed, waits⟩ := heard_settleInput after
  exact ⟨truthful, host, failed, waits⟩

theorem consumeLine_heard {line : List Char} (truthful : Truthful surface)
    (about : ∀ input, surface.pendingInputAck = some input → About surface.host input line) :
    Heard surface (consumeLine successor surface line) := by
  unfold consumeLine
  split
  · exact .refl truthful
  · split
    · split
      · exact heard_lost truthful
      · exact .refl truthful
    · split
      · rename_i same
        exact heard_settleInput (settleInput_ok_truthful truthful (same ▸ about))
      · split
        · exact heard_lost truthful
        · split
          · rename_i refused
            exact heard_settleInput (settleInput_rejected_truthful truthful refused about)
          · exact .refl truthful

theorem consumeLines_heard {lines : List (List Char)} (truthful : Truthful surface)
    (about : ∀ input, surface.pendingInputAck = some input →
      ∀ line ∈ lines, About surface.host input line) :
    Heard surface (lines.foldl (consumeLine successor) surface) := by
  induction lines generalizing surface with
  | nil => exact .refl truthful
  | cons line lines ih =>
      have first : Heard surface (consumeLine successor surface line) :=
        consumeLine_heard truthful fun input waits => about input waits line mem_cons_self
      have rest : Heard (consumeLine successor surface line)
          (lines.foldl (consumeLine successor) (consumeLine successor surface line)) := by
        refine ih first.truthful fun input waits other mem => ?_
        rw [first.host]
        exact about input (first.waits input waits) other (mem_cons_of_mem _ mem)
      exact ⟨rest.truthful, rest.host.trans first.host, rest.failed.trans first.failed,
        fun input waits => first.waits input (rest.waits input waits)⟩

/-! ## Steps -/

theorem failActive_attributed {error : MacOSSurfaceError} (truthful : Truthful surface)
    (whole : Unbroken surface.host.unprinted) (other : error ≠ .rejected)
    (idle : surface.failed = true → surface.pendingInputAck = none) :
    Attributed (surface.failActive error) := by
  unfold failActive
  split
  · rename_i failed
    refine ⟨truthful, whole, fun input waits => ?_, fun no => ?_⟩
    · cases (idle failed).symm.trans waits
    · cases failed.symm.trans no
  · have before : Truthful { surface with failed := true } := ⟨truthful.applied, truthful.rejected⟩
    have after := settleInput_error_truthful before other
    obtain ⟨none, host, failed, _⟩ :=
      settleInput_cases { surface with failed := true } (.error error)
    refine ⟨after, ?_, fun input waits => ?_, fun no => ?_⟩
    · rw [host]
      exact whole
    · cases none.symm.trans waits
    · cases failed.symm.trans no

/-- Once an input has settled, what the host says about it no longer matters. -/
theorem attributed_idle (attributed : Attributed surface) (truthful : Truthful surface')
    (idle : surface'.pendingInputAck = none) (failed : surface'.failed = surface.failed)
    (host : surface'.host = surface.host) (buffer : surface'.stderrBuffer = surface.stderrBuffer) :
    Attributed surface' := by
  refine ⟨truthful, ?_, fun input waits => (by cases idle.symm.trans waits), fun alive => ?_⟩
  · rw [host]
    exact attributed.whole
  · obtain ⟨unread, unbroken, text, _⟩ := attributed.own (failed.symm.trans alive)
    refine ⟨unread, unbroken, ?_, fun input waits => by cases idle.symm.trans waits⟩
    rw [buffer, host]
    exact text

theorem settleInput_error_attributed {error : MacOSSurfaceError} (attributed : Attributed surface)
    (other : error ≠ .rejected) : Attributed (surface.settleInput (.error error)) := by
  obtain ⟨idle, host, failed, _⟩ := settleInput_cases surface (.error error)
  refine attributed_idle attributed (settleInput_error_truthful attributed.truthful other) idle
    failed host ?_
  unfold settleInput
  split <;> rfl

/-- What arrives is a part of what was under way, and is read as such. -/
theorem consumeDiagnostics_attributed {count : Nat} (attributed : Attributed surface) :
    Attributed ({ surface with
      host := { surface.host with stderr := surface.host.stderr.drop count } }.consumeDiagnostics
        successor (surface.host.stderr.take count)) := by
  have truthful : Truthful { surface with
      host := { surface.host with stderr := surface.host.stderr.drop count } } :=
    ⟨attributed.truthful.applied, attributed.truthful.rejected⟩
  unfold consumeDiagnostics
  dsimp only
  split
  · rename_i failed
    refine ⟨truthful, attributed.whole, attributed.waits, fun no => ?_⟩
    cases failed.symm.trans no
  rename_i alive
  have alive := eq_false_of_ne_true alive
  split
  · have overfull : Truthful { surface with
        host := { surface.host with stderr := surface.host.stderr.drop count }
        stderrBuffer := surface.stderrBuffer ++ surface.host.stderr.take count } :=
      ⟨truthful.applied, truthful.rejected⟩
    split
    · exact failActive_attributed ⟨overfull.applied, overfull.rejected⟩ attributed.whole
        (by decide) fun failed => by cases alive.symm.trans failed
    · exact failActive_attributed overfull attributed.whole (by decide)
        fun failed => by cases alive.symm.trans failed
  · obtain ⟨unread, unbroken, text, own⟩ := attributed.own alive
    have whole : (surface.stderrBuffer ++ surface.host.stderr.take count) ++
        surface.host.stderr.drop count = writeLines unread := by
      rw [append_assoc, take_append_drop]
      exact text
    obtain ⟨rest, cut, left⟩ := readLines_arrived unbroken whole
    have about {input : Nat} (waits : surface.pendingInputAck = some input) :
        ∀ line ∈ unread, About surface.host input line := (own input waits).unread
    have heard := @consumeLines_heard successor _
      (readLines (surface.stderrBuffer ++ surface.host.stderr.take count)).1 truthful
      fun input waits line mem => about waits line (cut ▸ mem_append_left _ mem)
    generalize foldl (consumeLine successor) _ _ = read at heard ⊢
    refine ⟨⟨heard.truthful.applied, heard.truthful.rejected⟩, ?_, ?_, fun _ => ?_⟩
    · change Unbroken read.host.unprinted
      rw [heard.host]
      exact attributed.whole
    · intro input waits
      exact heard.failed.trans (attributed.waits input (heard.waits input waits))
    · refine ⟨rest, fun line mem => unbroken line (cut ▸ mem_append_right _ mem), ?_, ?_⟩
      · change _ ++ read.host.stderr = _
        rw [heard.host]
        exact left
      · intro input waits
        have mine := own input (heard.waits input waits)
        change Own read.host input rest
        rw [heard.host]
        exact ⟨mine.written, fun line mem =>
          mine.unread line (cut ▸ mem_append_right _ mem), mine.unprinted⟩

/-- The chain, the counts and the flags do not matter. -/
theorem attributed_of_keeps (attributed : Attributed surface)
    (outcomes : surface'.outcomes = surface.outcomes) (host : surface'.host = surface.host)
    (buffer : surface'.stderrBuffer = surface.stderrBuffer)
    (failed : surface'.failed = surface.failed)
    (waits : surface'.pendingInputAck = surface.pendingInputAck) : Attributed surface' := by
  obtain ⟨⟨applied, rejected⟩, whole, alive, own⟩ := attributed
  refine ⟨⟨?_, ?_⟩, ?_, ?_, ?_⟩
  · rw [outcomes, host]
    exact applied
  · rw [outcomes, host]
    exact rejected
  · rw [host]
    exact whole
  · rw [waits, failed]
    exact alive
  · rw [failed, buffer, host, waits]
    exact own

theorem begin_attributed {input : Nat} (attributed : Attributed surface)
    (idle : surface.pendingInputAck = none)
    (unowed : surface.available = true → (∀ command ∈ surface.host.stdin, command = .stop) ∧
      (∀ line ∈ (readLines (surface.stderrBuffer ++ surface.host.stderr)).1,
        line ∉ MacOSHost.reports) ∧
      ∀ line ∈ surface.host.unprinted, line ∉ MacOSHost.reports) :
    Attributed (surface.begin input) := by
  have refused {error : MacOSSurfaceError} (other : error ≠ .rejected) :
      Attributed (surface.settle input (.error error)) :=
    attributed_idle attributed (settle_error_truthful attributed.truthful other input) rfl rfl rfl
      rfl
  unfold begin
  split
  · exact refused (by decide)
  · rename_i kept
    split
    · exact refused (by decide)
    · rename_i here
      obtain ⟨alive, active⟩ : surface.failed = false ∧ surface.active = true := by
        simpa using here
      obtain ⟨written, unread, unprinted⟩ := unowed (by
        unfold available
        rw [eq_false_of_ne_true kept, alive, active]
        rfl)
      obtain ⟨lines, unbroken, text, _⟩ := attributed.own alive
      have read : (readLines (surface.stderrBuffer ++ surface.host.stderr)).1 = lines := by
        rw [text]
        exact readLines_writeLines unbroken
      rw [read] at unread
      refine ⟨⟨attributed.truthful.applied, attributed.truthful.rejected⟩, attributed.whole,
        fun _ _ => alive, fun _ => ⟨lines, unbroken, text, ?_⟩⟩
      rintro _ ⟨⟩
      refine ⟨fun other mem => ?_, fun line mem reported => absurd reported (unread line mem),
        fun line mem reported => absurd reported (unprinted line mem)⟩
      rcases mem_append.mp mem with mem | mem
      · cases written _ mem
      · cases mem_singleton.mp mem
        rfl

/-- A turn of the host's reader handles the line that was written first. -/
theorem turn_cases {host host' : MacOSHost} {report : HostReport}
    (turned : host.turn report = some host') :
    host.unprinted = [] ∧
    ((∃ input rest, host.stdin = .input input :: rest ∧
      host' = { host with
        stdin := rest, unprinted := report.lines, handled := (input, report) :: host.handled }) ∨
    ∃ rest, host.stdin = .stop :: rest ∧ host' = { host with stdin := rest, stopped := true }) := by
  unfold MacOSHost.turn at turned
  split at turned
  · cases turned
  · rename_i running
    have printed : host.unprinted = [] := by
      by_contra more
      exact running (.inr more)
    split at turned
    · cases turned
    · rename_i input rest written
      cases turned
      exact ⟨printed, .inl ⟨input, rest, written, rfl⟩⟩
    · rename_i rest written
      cases turned
      exact ⟨printed, .inr ⟨rest, written, rfl⟩⟩

theorem turn_attributed {report : HostReport} {host : MacOSHost} (attributed : Attributed surface)
    (turned : surface.host.turn report = some host) : Attributed { surface with host } := by
  obtain ⟨⟨applied, rejected⟩, whole, waits, own⟩ := attributed
  obtain ⟨printed, ⟨input, rest, written, rfl⟩ | ⟨rest, written, rfl⟩⟩ := turn_cases turned
  · refine ⟨⟨fun other mem => ?_, fun other mem => ?_⟩, report.lines_unbroken, waits,
      fun alive => ?_⟩
    · exact mem_cons_of_mem _ (applied other mem)
    · obtain ⟨report', refuses, told⟩ := rejected other mem
      exact ⟨report', refuses, mem_cons_of_mem _ told⟩
    · obtain ⟨unread, unbroken, text, mine⟩ := own alive
      refine ⟨unread, unbroken, text, fun other pending => ?_⟩
      have owned := mine other pending
      cases owned.written input (written ▸ mem_cons_self)
      refine ⟨fun other mem => owned.written other (written ▸ mem_cons_of_mem _ mem),
        fun line mem reported => ?_, fun line mem _ => ⟨report, mem_cons_self, mem⟩⟩
      obtain ⟨report', told, mem⟩ := owned.unread line mem reported
      exact ⟨report', mem_cons_of_mem _ told, mem⟩
  · refine ⟨⟨applied, rejected⟩, whole, waits, fun alive => ?_⟩
    obtain ⟨unread, unbroken, text, mine⟩ := own alive
    refine ⟨unread, unbroken, text, fun other pending => ?_⟩
    have owned := mine other pending
    exact ⟨fun other mem => owned.written other (written ▸ mem_cons_of_mem _ mem),
      owned.unread, owned.unprinted⟩

/-- A whole line is printed behind the others. -/
theorem print_attributed {line : List Char} {unprinted : List (List Char)}
    (attributed : Attributed surface) (clean : '\n' ∉ line)
    (fewer : ∀ other ∈ unprinted, other ∈ surface.host.unprinted)
    (about : ∀ input, surface.pendingInputAck = some input → surface.failed = false →
      About surface.host input line) :
    Attributed { surface with
      host := { surface.host with
        unprinted, stderr := surface.host.stderr ++ writeLines [line] } } := by
  obtain ⟨⟨applied, rejected⟩, whole, waits, own⟩ := attributed
  refine ⟨⟨applied, rejected⟩, fun other mem => whole other (fewer other mem), waits,
    fun alive => ?_⟩
  obtain ⟨unread, unbroken, text, mine⟩ := own alive
  refine ⟨unread ++ [line], fun other mem => ?_, ?_, fun input pending => ?_⟩
  · rcases mem_append.mp mem with mem | mem
    · exact unbroken other mem
    · cases mem_singleton.mp mem
      exact clean
  · change surface.stderrBuffer ++ (surface.host.stderr ++ writeLines [line]) = _
    rw [← append_assoc, text]
    exact (writeLines_append unread [line]).symm
  · have owned := mine input pending
    refine ⟨owned.written, fun other mem => ?_, fun other mem =>
      owned.unprinted other (fewer other mem)⟩
    rcases mem_append.mp mem with mem | mem
    · exact owned.unread other mem
    · cases mem_singleton.mp mem
      exact about input pending alive

theorem step_attributed {event : MacOSInputEvent} (step : Step successor surface event surface')
    (unowed : surface.Unowed event) (attributed : Attributed surface) : Attributed surface' := by
  change next successor surface event = some surface' at step
  cases event with
  | input =>
      cases step
      exact attributed_of_keeps attributed rfl rfl rfl rfl rfl
  | begin =>
      change surface.advanceChain = some surface' at step
      unfold advanceChain at step
      split at step
      · rename_i input rest idle _
        cases step
        have same : Attributed { surface with inputChain := rest } :=
          attributed_of_keeps attributed rfl rfl rfl rfl rfl
        exact begin_attributed same idle (unowed rfl)
      · cases step
  | timeout =>
      obtain ⟨input, _, rfl⟩ := map_eq_some_iff.mp step
      exact attributed_idle attributed
        (settle_error_truthful attributed.truthful (by decide) input) rfl rfl rfl rfl
  | writeFailed input =>
      change (if _ then _ else _) = some surface' at step
      split at step
      · cases step
        exact attributed_idle attributed
          (settle_error_truthful attributed.truthful (by decide) input) rfl rfl rfl rfl
      · cases step
        exact attributed
  | data count =>
      cases step
      exact consumeDiagnostics_attributed attributed
  | failed message =>
      cases step
      refine failActive_attributed attributed.truthful attributed.whole (by rintro ⟨⟩)
        fun failed => ?_
      rcases Option.eq_none_or_eq_some surface.pendingInputAck with idle | ⟨input, waits⟩
      · exact idle
      · cases failed.symm.trans (attributed.waits input waits)
  | stop =>
      cases step
      have before : Attributed { surface with stopping := true } :=
        attributed_of_keeps attributed rfl rfl rfl rfl rfl
      have settled := @settleInput_error_attributed _ .stopped before (by decide)
      obtain ⟨idle, host, failed, _⟩ :=
        settleInput_cases { surface with stopping := true } (.error .stopped)
      obtain ⟨⟨applied, rejected⟩, whole, _, own⟩ := settled
      unfold stopActive
      rw [host] at applied rejected whole own
      refine ⟨⟨applied, rejected⟩, whole, fun input waits => (by cases idle.symm.trans waits),
        fun alive => ?_⟩
      obtain ⟨unread, unbroken, text, _⟩ := own alive
      exact ⟨unread, unbroken, text, fun input waits => by cases idle.symm.trans waits⟩
  | replaced =>
      cases step
      exact attributed_of_keeps attributed rfl rfl rfl rfl rfl
  | boundaryLost =>
      cases step
      exact attributed_of_keeps attributed rfl rfl rfl rfl rfl
  | turn report =>
      obtain ⟨host, turned, rfl⟩ := map_eq_some_iff.mp step
      exact turn_attributed attributed turned
  | print =>
      obtain ⟨host, printed, rfl⟩ := map_eq_some_iff.mp step
      unfold MacOSHost.print at printed
      split at printed
      · cases printed
      · rename_i line rest unprinted
        cases printed
        have mem : line ∈ surface.host.unprinted := unprinted ▸ mem_cons_self
        refine print_attributed attributed (attributed.whole line mem)
          (fun other later => unprinted ▸ mem_cons_of_mem _ later) fun input pending alive => ?_
        obtain ⟨_, _, _, mine⟩ := attributed.own alive
        exact (mine input pending).unprinted line mem
  | say line =>
      obtain ⟨host, said, rfl⟩ := map_eq_some_iff.mp step
      unfold MacOSHost.say at said
      split at said
      · cases said
      · rename_i other
        cases said
        exact print_attributed attributed (fun broken => other (.inl broken)) (fun _ mem => mem)
          fun _ _ _ reported => absurd (.inr reported) other

/-! ## Every input is handled once -/

/-- The inputs among the lines written to the host. -/
def written (commands : List HostCommand) : List Nat :=
  commands.filterMap fun
    | .input input => some input
    | .stop => none

/-- The inputs are handled in the order they were given to the helper. -/
def Numbered (surface : ActiveMacOSSurface) : Prop :=
  InOrder (surface.host.handled.map Prod.fst) (written surface.host.stdin) surface.inputChain
    surface.inputs

theorem written_append (before after : List HostCommand) :
    written (before ++ after) = written before ++ written after :=
  filterMap_append

/-- What the order of the inputs depends on. -/
structure SameInputs (first last : ActiveMacOSSurface) : Prop where
  inputs : last.inputs = first.inputs
  chain : last.inputChain = first.inputChain
  handled : last.host.handled = first.host.handled
  written : written last.host.stdin = written first.host.stdin

theorem SameInputs.numbered (same : SameInputs surface surface') (numbered : Numbered surface) :
    Numbered surface' := by
  unfold Numbered
  rw [same.inputs, same.chain, same.handled, same.written]
  exact numbered

theorem SameInputs.refl (surface : ActiveMacOSSurface) : SameInputs surface surface :=
  ⟨rfl, rfl, rfl, rfl⟩

theorem SameInputs.trans {surface'' : ActiveMacOSSurface} (before : SameInputs surface surface')
    (after : SameInputs surface' surface'') : SameInputs surface surface'' :=
  ⟨after.inputs.trans before.inputs, after.chain.trans before.chain,
    after.handled.trans before.handled, after.written.trans before.written⟩

theorem settleInput_same (surface : ActiveMacOSSurface) (outcome : Except MacOSSurfaceError Unit) :
    SameInputs surface (surface.settleInput outcome) := by
  unfold settleInput
  split <;> exact ⟨rfl, rfl, rfl, rfl⟩

theorem failActive_same (surface : ActiveMacOSSurface) (error : MacOSSurfaceError) :
    SameInputs surface (surface.failActive error) := by
  unfold failActive
  split
  · exact .refl surface
  · obtain ⟨inputs, chain, handled, written⟩ :=
      settleInput_same { surface with failed := true } (.error error)
    exact ⟨inputs, chain, handled, written⟩

theorem consumeLine_same (surface : ActiveMacOSSurface) (line : List Char) :
    SameInputs surface (consumeLine successor surface line) := by
  have lost : SameInputs surface
      (surface.noteAuthorityLoss.settleInput (.error .authorityLost)) := by
    obtain ⟨inputs, chain, handled, written⟩ :=
      settleInput_same surface.noteAuthorityLoss (.error .authorityLost)
    exact ⟨inputs, chain, handled, written⟩
  unfold consumeLine
  split
  · exact .refl surface
  · split
    · split
      · exact lost
      · exact .refl surface
    · split
      · exact settleInput_same surface _
      · split
        · exact lost
        · split
          · exact settleInput_same surface _
          · exact .refl surface

theorem consumeLines_same (lines : List (List Char)) :
    SameInputs surface (lines.foldl (consumeLine successor) surface) := by
  induction lines generalizing surface with
  | nil => exact .refl surface
  | cons line lines ih => exact (consumeLine_same surface line).trans ih

theorem consumeDiagnostics_same (chunk : List Char) :
    SameInputs surface (surface.consumeDiagnostics successor chunk) := by
  unfold consumeDiagnostics
  dsimp only
  split
  · exact .refl surface
  · split
    · split
      · obtain ⟨inputs, chain, handled, written⟩ := failActive_same
          { surface with stderrBuffer := surface.stderrBuffer ++ chunk }.noteAuthorityLoss .unbounded
        exact ⟨inputs, chain, handled, written⟩
      · obtain ⟨inputs, chain, handled, written⟩ := failActive_same
          { surface with stderrBuffer := surface.stderrBuffer ++ chunk } .unbounded
        exact ⟨inputs, chain, handled, written⟩
    · obtain ⟨inputs, chain, handled, written⟩ := @consumeLines_same successor surface
        (readLines (surface.stderrBuffer ++ chunk)).1
      exact ⟨inputs, chain, handled, written⟩

theorem step_numbered {event : MacOSInputEvent} (step : Step successor surface event surface')
    (numbered : Numbered surface) : Numbered surface' := by
  change next successor surface event = some surface' at step
  cases event with
  | input =>
      cases step
      exact InOrder.make numbered
  | begin =>
      change surface.advanceChain = some surface' at step
      unfold advanceChain at step
      split at step
      · rename_i input rest _ chain
        cases step
        unfold Numbered at numbered
        rw [chain] at numbered
        unfold begin
        split
        · exact numbered.forget
        · split
          · exact numbered.forget
          · change InOrder _ (written (surface.host.stdin ++ [.input input])) rest _
            rw [written_append]
            exact numbered.write
      · cases step
  | timeout =>
      obtain ⟨input, _, rfl⟩ := map_eq_some_iff.mp step
      exact numbered
  | writeFailed input =>
      change (if _ then _ else _) = some surface' at step
      split at step
      · cases step
        exact numbered
      · cases step
        exact numbered
  | data count =>
      cases step
      have same := @consumeDiagnostics_same successor { surface with
        host := { surface.host with stderr := surface.host.stderr.drop count } }
        (surface.host.stderr.take count)
      exact same.numbered numbered
  | failed message =>
      cases step
      exact (failActive_same surface _).numbered numbered
  | stop =>
      cases step
      have same := settleInput_same { surface with stopping := true } (.error .stopped)
      have stopped : SameInputs surface surface.stopActive := by
        refine ⟨same.inputs, same.chain, rfl, ?_⟩
        change written (surface.host.stdin ++ [.stop]) = _
        rw [written_append]
        exact append_nil _
      exact stopped.numbered numbered
  | replaced =>
      cases step
      exact numbered
  | boundaryLost =>
      cases step
      exact numbered
  | turn report =>
      obtain ⟨host, turned, rfl⟩ := map_eq_some_iff.mp step
      unfold Numbered at numbered ⊢
      obtain ⟨_, ⟨input, rest, queued, rfl⟩ | ⟨rest, queued, rfl⟩⟩ := turn_cases turned
      · rw [queued] at numbered
        exact InOrder.handle numbered
      · rw [queued] at numbered
        exact numbered
  | print =>
      obtain ⟨host, printed, rfl⟩ := map_eq_some_iff.mp step
      unfold MacOSHost.print at printed
      split at printed
      · cases printed
      · cases printed
        exact numbered
  | say line =>
      obtain ⟨host, said, rfl⟩ := map_eq_some_iff.mp step
      unfold MacOSHost.say at said
      split at said
      · cases said
      · cases said
        exact numbered

/-! ## Runs -/

/-- When no input is written while a report is owed, an input resolves only if the host reported
that input applied and nothing else, and is rejected only if the host reported that input and
refused it. -/
theorem run_acknowledged {events : List MacOSInputEvent} {last : ActiveMacOSSurface}
    (run : Run (Guarded (Step successor) Unowed) initial events last) (input : Nat) :
    ((input, .ok ()) ∈ last.outcomes →
      ∀ report, (input, report) ∈ last.host.handled ↔ report = .applied) ∧
    ((input, .error .rejected) ∈ last.outcomes → ∃ report, report.refuses ∧
      ∀ other, (input, other) ∈ last.host.handled ↔ other = report) := by
  have sound : Attributed last ∧ Numbered last := by
    refine @Run.invariant _ _ _ (fun surface => Attributed surface ∧ Numbered surface) _ _ _ run
      ?_ ⟨⟨⟨fun _ no => (by cases no), fun _ no => by cases no⟩, fun _ no => (by cases no),
        fun _ no => (by cases no), fun _ => ⟨[], fun _ no => (by cases no), rfl,
          fun _ no => by cases no⟩⟩, .start⟩
    rintro first event last ⟨step, unowed⟩ ⟨attributed, numbered⟩
    exact ⟨step_attributed step unowed attributed, step_numbered step numbered⟩
  obtain ⟨attributed, numbered⟩ := sound
  have only {report : HostReport} (told : (input, report) ∈ last.host.handled)
      (other : HostReport) : (input, other) ∈ last.host.handled ↔ other = report := by
    constructor
    · exact fun told' => numbered.unique told' told
    · rintro rfl
      exact told
  constructor
  · intro mem
    exact only (attributed.truthful.applied input mem)
  · intro mem
    obtain ⟨report, refuses, told⟩ := attributed.truthful.rejected input mem
    exact ⟨report, refuses, only told⟩

/-- The host refuses an input and applies the next one, each reported before the next is
written. -/
def sampleInputs : List MacOSInputEvent :=
  [.input, .input, .begin, .turn .rejected, .print, .data 40, .data 100, .begin, .turn .applied,
    .print, .data 100]

theorem sampleInputs_acknowledged :
    ∃ last : ActiveMacOSSurface, (1, .ok ()) ∈ last.outcomes ∧
      ∀ report, (1, report) ∈ last.host.handled ↔ report = .applied := by
  obtain ⟨last, executed, resolved⟩ : ∃ last,
      execute (permitted (next false) Unowed) initial sampleInputs = some last ∧
      (1, .ok ()) ∈ last.outcomes := by
    refine ⟨_, rfl, ?_⟩
    decide +kernel
  exact ⟨last, resolved, (run_acknowledged (run_guarded_of_execute executed) 1).1 resolved⟩

/-- The report on an input that has timed out resolves the next one, which the host refuses. -/
theorem sampleTimedOut_misattributed :
    ∃ last, Run (Step false) initial
      [.input, .input, .begin, .timeout, .begin, .turn .applied, .print, .data 100,
        .turn .rejected] last ∧
      (1, .ok ()) ∈ last.outcomes ∧ (1, .applied) ∉ last.host.handled ∧
      (1, .rejected) ∈ last.host.handled := by
  refine ⟨_, (run_iff_execute _ _ _ _).mpr rfl, ?_⟩
  decide +kernel

end ActiveMacOSSurface

end ExecutionHandoff.Surface
