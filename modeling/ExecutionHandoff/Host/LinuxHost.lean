import Mathlib.Data.List.SplitOn
import ExecutionHandoff.Library.Runs
import ExecutionHandoff.WebSocket.Messages

/-!
# Input and shutdown of the Linux host

`linuxWebRtcHostMain` reads commands from stdin and applies the inputs one after
another on a chain; `stopHost` appends the shutdown to that chain.  Inputs are
named in the order they are admitted.  The checks of the window between the
mutations of an input are events here, and so is each mutation.  `parse` stands
for decoding and `JSON.parse`, and `number` for `Number`.
-/

namespace ExecutionHandoff.Host

open Library
open WebSocket (JsonField JsonValue utf8Length)

def maxInputLineBytes : Nat := 4 * 1024
def maxPendingInputBytes : Nat := 8 * 1024

inductive ButtonState where
  | down
  | up
  deriving DecidableEq

inductive SpecialKey where
  | backspace
  | enter
  deriving DecidableEq

inductive LinuxHostInput where
  | tap (x y : ℚ)
  | pointerButton (state : ButtonState) (x y : ℚ)
  | scroll (deltaX deltaY : ℚ)
  | text (text : String)
  | key (key : SpecialKey)
  deriving DecidableEq

inductive LinuxHostCommand where
  | stop
  | requestIDR
  | input (input : LinuxHostInput)
  deriving DecidableEq

section Parsing

variable (number : Option JsonField → Option ℚ) (record : List (String × JsonField))

def normalizedPoint : Option (ℚ × ℚ) :=
  match number (record.lookup "x"), number (record.lookup "y") with
  | some x, some y => if 0 ≤ x ∧ x ≤ 1 ∧ 0 ≤ y ∧ y ≤ 1 then some (x, y) else none
  | _, _ => none

def parseScroll : Option LinuxHostInput :=
  match number (record.lookup "deltaX"), number (record.lookup "deltaY") with
  | some deltaX, some deltaY =>
      if |deltaX| ≤ 2000 ∧ |deltaY| ≤ 2000 then some (.scroll deltaX deltaY) else none
  | _, _ => none

def parsePointerButton : Option LinuxHostInput :=
  match record.lookup "button", record.lookup "state" with
  | some (.string "primary"), some (.string "down") =>
      (normalizedPoint number record).map fun point => .pointerButton .down point.1 point.2
  | some (.string "primary"), some (.string "up") =>
      (normalizedPoint number record).map fun point => .pointerButton .up point.1 point.2
  | _, _ => none

def parseText : Option LinuxHostInput :=
  match record.lookup "text" with
  | some (.string text) =>
      if 1 ≤ utf8Length text ∧ utf8Length text ≤ maxInputLineBytes ∧ text.length ≤ 1024 then
        some (.text text)
      else
        none
  | _ => none

def parseKey : Option LinuxHostInput :=
  match record.lookup "key" with
  | some (.string "Backspace") => some (.key .backspace)
  | some (.string "Enter") => some (.key .enter)
  | _ => none

def parseHostInput : JsonValue → Option LinuxHostCommand
  | .other => none
  | .object record =>
      match record.lookup "kind" with
      | some (.string "stop") => some .stop
      | some (.string "requestIDR") => some .requestIDR
      | some (.string "tap") =>
          (normalizedPoint number record).map fun point => .input (.tap point.1 point.2)
      | some (.string "pointer_button") => (parsePointerButton number record).map .input
      | some (.string "scroll") => (parseScroll number record).map .input
      | some (.string "text") => (parseText record).map .input
      | some (.string "key") => (parseKey record).map .input
      | _ => none

end Parsing

/-! ## Inputs -/

/-- What is done to the window; a click of the wheel is along one axis. -/
inductive Mutation where
  | move
  | down
  | up
  | cancel
  | keyDown (key : SpecialKey)
  | keyUp (key : SpecialKey)
  | cancelKey
  | click (horizontal : Bool) (delta : ℚ)
  | type (text : String)
  deriving DecidableEq

/-- The mutations that `apply` makes when no check fails. -/
def LinuxHostInput.mutations : LinuxHostInput → List Mutation
  | .tap _ _ => [.move, .down, .up]
  | .pointerButton .down _ _ => [.move, .down]
  | .pointerButton .up _ _ => [.up]
  | .scroll deltaX deltaY =>
      (if deltaY = 0 then [] else [.click false deltaY]) ++
        if deltaX = 0 then [] else [.click true deltaX]
  | .text content => [.type content]
  | .key pressed => [.keyDown pressed, .keyUp pressed]

def Mutation.isRelease : Mutation → Bool
  | .cancel | .cancelKey => true
  | _ => false

inductive HostStopReason where
  | captureFailure
  | inputFailure
  | stdinEnd
  | signalTerm
  | signalInt
  | expiry
  | inputBufferBounds
  | explicitStop
  deriving DecidableEq

inductive HostLink where
  | input (id : Nat) (input : LinuxHostInput)
  | shutdown
  deriving DecidableEq

/-- The input a link is about. -/
def HostLink.owner : HostLink → Option Nat
  | .input id _ => some id
  | .shutdown => none

/-- `chain` are the links that have not begun, `current` is the one that has, with the mutations it
has still to make; `mutations` are those made, the last one first, each with its input. -/
structure LinuxHost where
  stopReason : Option HostStopReason
  pending : List UInt8
  admitted : Nat
  chain : List HostLink
  current : Option (HostLink × List Mutation)
  primaryPressed : Bool
  pressedKey : Option SpecialKey
  helperClosed : Bool
  begun : List Nat
  mutations : List (Option Nat × Mutation)
  deriving DecidableEq

inductive HostEvent where
  | data (chunk : List UInt8)
  /-- A signal, the end of stdin, the expiry or a failure of the capture. -/
  | stop (reason : HostStopReason)
  | begins
  | mutates
  /-- A check or a mutation of the input has failed, or a release of the shutdown. -/
  | fails (cancels : Bool)
  | ends
  deriving DecidableEq

namespace LinuxHost

def initial : LinuxHost := ⟨none, [], 0, [], none, false, none, false, [], []⟩

variable (parse : List UInt8 → Option JsonValue) (number : Option JsonField → Option ℚ)
  (host : LinuxHost)

def stopHost (reason : HostStopReason) : LinuxHost :=
  match host.stopReason with
  | some _ => host
  | none => { host with stopReason := some reason, chain := host.chain ++ [.shutdown] }

def take (input : LinuxHostInput) : LinuxHost :=
  { host with
    admitted := host.admitted + 1
    chain := host.chain ++ [.input host.admitted input] }

/-- The loop over the lines of a chunk; a new IDR is no matter of the input chain. -/
def receive (host : LinuxHost) : List LinuxHostCommand → LinuxHost
  | [] => host
  | .stop :: commands => (host.stopHost .explicitStop).receive commands
  | .requestIDR :: commands => host.receive commands
  | .input input :: commands => (host.take input).receive commands

def commands (lines : List (List UInt8)) : List LinuxHostCommand :=
  lines.filterMap fun line =>
    if 1 ≤ line.length ∧ line.length ≤ maxInputLineBytes then
      (parse line).bind (parseHostInput number)
    else
      none

/-- The complete lines with a chunk added to what is pending. -/
def arrived (chunk : List UInt8) : List (List UInt8) :=
  ((host.pending ++ chunk).splitOn 0x0a).dropLast

def data (chunk : List UInt8) : LinuxHost :=
  if host.stopReason ≠ none then
    host
  else if maxPendingInputBytes < (host.pending ++ chunk).length then
    { host with pending := host.pending ++ chunk }.stopHost .inputBufferBounds
  else
    { host with pending := ((host.pending ++ chunk).splitOn 0x0a).getLastD [] }.receive
      (commands parse number (host.arrived chunk))

/-- What `releaseAll` has to release. -/
def releases : List Mutation :=
  (if host.pressedKey = none then [] else [.cancelKey]) ++
    if host.primaryPressed then [.cancel] else []

def begins : Option LinuxHost :=
  match host.current, host.chain with
  | none, .input id input :: rest =>
      some
        { host with
          chain := rest
          current := some (.input id input, input.mutations)
          begun := id :: host.begun }
  | none, .shutdown :: rest =>
      some { host with chain := rest, current := some (.shutdown, host.releases) }
  | _, _ => none

/-- The buttons and keys are as the mutation needs them; the helper makes all but clicks and
texts. -/
def admits : Mutation → Bool
  | .move | .down => !host.helperClosed && !host.primaryPressed
  | .up => !host.helperClosed && host.primaryPressed
  | .keyDown _ => !host.helperClosed && host.pressedKey.isNone
  | .keyUp key => !host.helperClosed && host.pressedKey == some key
  | .cancel | .cancelKey => !host.helperClosed
  | .click _ _ | .type _ => true

def make (owner : Option Nat) (mutation : Mutation) : LinuxHost :=
  { host with
    primaryPressed := match mutation with
      | .down => true
      | .up | .cancel => false
      | _ => host.primaryPressed
    pressedKey := match mutation with
      | .keyDown key => some key
      | .keyUp _ | .cancelKey => none
      | _ => host.pressedKey
    mutations := (owner, mutation) :: host.mutations }

def mutates : Option LinuxHost :=
  match host.current with
  | some (link, mutation :: rest) =>
      if host.admits mutation then
        some { host.make link.owner mutation with current := some (link, rest) }
      else
        none
  | _ => none

/-- What the failure of an input releases where it is caught. -/
def release (id : Nat) (cancels : Bool) : LinuxHost :=
  let host := if host.pressedKey = none then host else host.make (some id) .cancelKey
  if cancels ∧ host.primaryPressed then host.make (some id) .cancel else host

/-- `apply` rejects. -/
def reject (id : Nat) (cancels : Bool) : LinuxHost :=
  ({ host with current := none }.release id cancels).stopHost .inputFailure

def fails (cancels : Bool) : Option LinuxHost :=
  match host.current with
  | some (.input id _, _) => some (host.reject id cancels)
  | some (.shutdown, _ :: rest) => some { host with current := some (.shutdown, rest) }
  | _ => none

def ends : Option LinuxHost :=
  match host.current with
  | some (.input _ _, []) => some { host with current := none }
  | some (.shutdown, []) =>
      some
        { host with
          current := none
          primaryPressed := false
          pressedKey := none
          helperClosed := true }
  | _ => none

def next : HostEvent → Option LinuxHost
  | .data chunk => some (host.data parse number chunk)
  | .stop reason => some (host.stopHost reason)
  | .begins => host.begins
  | .mutates => host.mutates
  | .fails cancels => host.fails cancels
  | .ends => host.ends

abbrev Step : LinuxHost → HostEvent → LinuxHost → Prop := StepOf (next parse number)

end LinuxHost

end ExecutionHandoff.Host
