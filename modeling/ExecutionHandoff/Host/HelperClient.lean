import ExecutionHandoff.Library.TerminatedLines
import ExecutionHandoff.Surface.DiagnosticLines

/-!
# The clients of the Linux helpers

The Linux host moves the pointer through an XTEST helper and reads editable
regions through an AT-SPI helper.  Both clients keep one command outstanding and
take the next line of the helper for its reply.  What a client only tells
others, its last failure and the texts of its rejections, is left out.
-/

namespace ExecutionHandoff.Host

open Library Surface

/-- What the two clients do differently. -/
structure HelperProtocol (κ : Type) where
  readyLine : JsString
  maxOutputBytes : Nat
  /-- What is checked of a command before it is written. -/
  admits : κ → Bool
  /-- The line resolves the command. -/
  resolves : κ → JsString → Bool
  /-- The timer of the acknowledgement closes the client. -/
  closesOnTimeout : Bool

inductive HelperReadyState where
  | waiting
  | ready
  | failed
  deriving DecidableEq

/-- What becomes of the commands, which are numbered as they are written, and of the lines, which
are numbered as they are taken. -/
inductive HelperEntry where
  | wrote (command : Nat)
  | resolved (command line : Nat)
  /-- The line does not resolve the command. -/
  | mismatched (command line : Nat)
  | timedOut (command : Nat)
  /-- The write, the process or the bound of the output failed. -/
  | failed (command : Nat)
  /-- No command was outstanding. -/
  | unexpected (line : Nat)
  deriving DecidableEq

namespace HelperEntry

/-- The command that the entry settles. -/
def settles : HelperEntry → Option Nat
  | wrote _ | unexpected _ => none
  | resolved command _ | mismatched command _ | timedOut command | failed command => some command

/-- A timeout, a reply that does not fit and one that nobody waits for. -/
def stops : HelperEntry → Bool
  | mismatched _ _ | timedOut _ | unexpected _ => true
  | wrote _ | resolved _ _ | failed _ => false

/-- The entry neither writes nor resolves a command. -/
def Plain (entry : HelperEntry) : Prop :=
  (∀ command, entry ≠ wrote command) ∧ ∀ command line, entry ≠ resolved command line

end HelperEntry

structure HelperClient (κ : Type) where
  output : JsString
  readyState : HelperReadyState
  pending : Option (Nat × κ)
  closing : Bool
  /-- There is an exit code or a signal. -/
  exited : Bool
  /-- A write has failed, and so does each one after it. -/
  stdinFailed : Bool
  written : List κ
  /-- How many lines have been taken off the output, the ready line included. -/
  taken : Nat
  log : List HelperEntry

namespace HelperClient

variable {κ : Type} (protocol : HelperProtocol κ) (client : HelperClient κ)

def initial : HelperClient κ := ⟨[], .waiting, none, false, false, false, [], 0, []⟩

/-- The promise of the outstanding command is settled. -/
def settle (entry : Nat → HelperEntry) : HelperClient κ :=
  match client.pending with
  | none => client
  | some (command, _) => { client with pending := none, log := client.log ++ [entry command] }

def close : HelperClient κ := { client with closing := true }

def fail : HelperClient κ :=
  if client.readyState = .waiting then { client.settle .failed with readyState := .failed }
  else client.settle .failed

/-- `command` and `snapshot`; nothing where the promise is rejected before anything is written. -/
def command (line : κ) : Option (HelperClient κ) :=
  if client.readyState ≠ .ready ∨ client.closing = true ∨ client.exited = true then none
  else if client.pending.isSome then none
  else if protocol.admits line = false then none
  -- a write to the failed stream calls back with an error, and the promise is rejected by it
  else if client.stdinFailed then none
  else
    some { client with
      pending := some (client.written.length, line)
      written := client.written ++ [line]
      log := client.log ++ [.wrote client.written.length] }

/-- The timer of the outstanding command. -/
def ackTimeout : HelperClient κ :=
  if protocol.closesOnTimeout then (client.settle .timedOut).close else client.settle .timedOut

def readyTimeout : HelperClient κ :=
  if client.readyState = .waiting then { client with readyState := .failed }.close else client

/-- The callback of a write. -/
def writeFailed : HelperClient κ := { client with stdinFailed := true }.fail

/-- One round of the loop in `consume`; false where it returns. -/
def takeLine (line : JsString) : HelperClient κ × Bool :=
  let read := { client with taken := client.taken + 1 }
  if client.readyState = .waiting then
    if line = protocol.readyLine then ({ read with readyState := .ready }, true)
    else (read.fail.close, false)
  else
    match client.pending with
    | none =>
        ({ read with log := client.log ++ [HelperEntry.unexpected client.taken] }.fail.close, false)
    | some (_, sent) =>
        if protocol.resolves sent line then (read.settle (.resolved · client.taken), true)
        else ((read.settle (.mismatched · client.taken)).close, false)

/-- The loop over the lines that have arrived; those behind a return are left in the output. -/
def consumeLines (rest : JsString) : List JsString → HelperClient κ → HelperClient κ
  | [], client => { client with output := rest }
  | line :: lines, client =>
      match client.takeLine protocol (trimUnits line) with
      | (next, true) => consumeLines rest lines next
      | (next, false) => { next with output := terminate 10 lines ++ rest }

def consume (chunk : List UInt8) : HelperClient κ :=
  let output := client.output ++ JsString.units (decodeUtf8 chunk)
  if output.length > protocol.maxOutputBytes then { client with output := output }.fail.close
  else consumeLines protocol (unfinishedLine 10 output) (completeLines 10 output) client

end HelperClient

/-! ## The two helpers -/

inductive XTestAck where
  | move
  | down
  | up
  | cancel
  | keyDown
  | keyUp
  | cancelKey
  deriving DecidableEq

def XTestAck.text : XTestAck → String
  | move => "MOVE"
  | down => "DOWN"
  | up => "UP"
  | cancel => "CANCEL"
  | keyDown => "KEYDOWN"
  | keyUp => "KEYUP"
  | cancelKey => "CANCELKEY"

structure XTestCommand where
  line : JsString
  expected : XTestAck
  deriving DecidableEq

inductive XTestKey where
  | backspace
  | enter

namespace LinuxXTestPointerHelper

def keyText : XTestKey → String
  | .backspace => "BACKSPACE"
  | .enter => "RETURN"

def move (x y : ℤ) : XTestCommand :=
  ⟨JsString.ascii "MOVE " ++ intUnits x ++ JsString.ascii " " ++ intUnits y, .move⟩

def down (cleanupX cleanupY : ℤ) : XTestCommand :=
  ⟨JsString.ascii "DOWN 1 " ++ intUnits cleanupX ++ JsString.ascii " " ++ intUnits cleanupY, .down⟩

def up : XTestCommand := ⟨JsString.ascii "UP 1", .up⟩
def cancel : XTestCommand := ⟨JsString.ascii "CANCEL 1", .cancel⟩

def keyDown (key : XTestKey) : XTestCommand :=
  ⟨JsString.ascii "KEYDOWN " ++ JsString.ascii (keyText key), .keyDown⟩

def keyUp (key : XTestKey) : XTestCommand :=
  ⟨JsString.ascii "KEYUP " ++ JsString.ascii (keyText key), .keyUp⟩

def cancelKey : XTestCommand := ⟨JsString.ascii "CANCELKEY", .cancelKey⟩

/-- `[A-Z0-9 -]`. -/
def commandUnit (unit : UInt16) : Bool :=
  isDigit unit || decide (65 ≤ unit ∧ unit ≤ 90) || unit == 32 || unit == 45

def protocol : HelperProtocol XTestCommand where
  readyLine := JsString.ascii "READY 2"
  maxOutputBytes := 4096
  -- `/^[A-Z0-9 -]{2,96}$/`
  admits command :=
    decide (2 ≤ command.line.length ∧ command.line.length ≤ 96) && command.line.all commandUnit
  resolves command line := line = JsString.ascii "OK " ++ JsString.ascii command.expected.text
  closesOnTimeout := true

end LinuxXTestPointerHelper

/-- There is one command, `snapshot`, and its timer leaves the client to `requestAccessibilitySnapshot`. -/
def LinuxAtSpiEditableHelper.protocol : HelperProtocol Unit where
  readyLine := JsString.ascii "READY 1"
  maxOutputBytes := 8192
  admits _ := true
  resolves _ line := (parseLinuxAtSpiSnapshotLine line).isOk
  closesOnTimeout := false

end ExecutionHandoff.Host
