import ExecutionHandoff.Host.LinuxHost
import ExecutionHandoff.Library.TerminatedLines

/-!
# The command readers of the hosts

Both hosts read the commands of their parent line by line from stdin, which
arrives in chunks.  The Linux host bounds what is pending before it takes the
lines of a chunk off, and goes through all of them; the `InputReader` of the
macOS host reads small chunks and returns at a stop.  `dispatched` are the
commands that a reader has acted on, in order.  `parse` stands for decoding and
`JSON.parse` on the one host, and for `JSONSerialization` on the other.
-/

namespace ExecutionHandoff.Host

open Library List
open WebSocket (JsonField JsonValue)
open LinuxHost (commands)

/-- The commands up to the first stop, and with it. -/
def upToStop {Command : Type} (stops : Command → Bool) : List Command → List Command
  | [] => []
  | command :: commands =>
      if stops command then [command] else command :: upToStop stops commands

def lineBreak : UInt8 := 0x0a

/-! ## The Linux host -/

def LinuxHostCommand.stops : LinuxHostCommand → Bool
  | .stop => true
  | _ => false

def LinuxHostCommand.isInput : LinuxHostCommand → Bool
  | .input _ => true
  | _ => false

/-- The state of the handler of `data`. -/
structure LinuxCommandReader where
  stopReason : Option HostStopReason
  pending : List UInt8
  dispatched : List LinuxHostCommand
  deriving DecidableEq

namespace LinuxCommandReader

def initial : LinuxCommandReader := ⟨none, [], []⟩

variable (parse : List UInt8 → Option JsonValue) (number : Option JsonField → Option ℚ)
  (reader : LinuxCommandReader)

def stopHost (reason : HostStopReason) : LinuxCommandReader :=
  match reader.stopReason with
  | some _ => reader
  | none => { reader with stopReason := some reason }

/-- A stop does not end the loop over the lines. -/
def dispatch (command : LinuxHostCommand) : LinuxCommandReader :=
  let reader' := { reader with dispatched := reader.dispatched ++ [command] }
  if command.stops then reader'.stopHost .explicitStop else reader'

def data (chunk : List UInt8) : LinuxCommandReader :=
  if reader.stopReason ≠ none then
    reader
  else if maxPendingInputBytes < (reader.pending ++ chunk).length then
    { reader with pending := reader.pending ++ chunk }.stopHost .inputBufferBounds
  else
    (LinuxHost.commands parse number (completeLines lineBreak (reader.pending ++ chunk))).foldl
      dispatch { reader with pending := unfinishedLine lineBreak (reader.pending ++ chunk) }

def read (chunks : List (List UInt8)) : LinuxCommandReader :=
  chunks.foldl (data parse number) reader

end LinuxCommandReader

/-! ## The macOS host -/

/-- An object that is neither a stop nor a request for a key frame goes to the injector. -/
inductive MacHostCommand where
  | stop
  | requestIDR
  | apply (object : List (String × JsonField))
  deriving DecidableEq

def MacHostCommand.stops : MacHostCommand → Bool
  | .stop => true
  | _ => false

inductive WebRtcHostExitReason where
  | explicitStop
  | stdinEOF
  | unexpected
  deriving DecidableEq

structure InputReader where
  exitReason : Option WebRtcHostExitReason
  pending : List UInt8
  dispatched : List MacHostCommand
  deriving DecidableEq

namespace InputReader

def bufferBytes : Nat := 2_048
def maxPendingBytes : Nat := 8_192
def maxLineBytes : Nat := 4_096

def initial : InputReader := ⟨none, [], []⟩

variable (parse : List UInt8 → Option JsonValue) (reader : InputReader)

def command (line : List UInt8) : Option MacHostCommand :=
  if line = [] ∨ maxLineBytes < line.length then
    none
  else
    match parse line with
    | some (.object object) =>
        match object.lookup "kind" with
        | some (.string kind) =>
            if kind = "stop" then some .stop
            else if kind = "requestIDR" then some .requestIDR
            else some (.apply object)
        | _ => none
    | _ => none

def stop (reason : WebRtcHostExitReason) : InputReader :=
  match reader.exitReason with
  | some _ => reader
  | none => { reader with exitReason := some reason }

def dispatch (command : MacHostCommand) : InputReader :=
  { reader with dispatched := reader.dispatched ++ [command] }

/-- The loop over the lines, which a stop returns from. -/
def take (reader : InputReader) : List (List UInt8) → InputReader
  | [] => reader
  | line :: lines =>
      match command parse line with
      | none => reader.take lines
      | some .stop => (reader.dispatch .stop).stop .explicitStop
      | some other => (reader.dispatch other).take lines

/-- One round of the loop of `start`; `read` returns no bytes at the end of stdin. -/
def round (chunk : List UInt8) : InputReader :=
  if reader.exitReason ≠ none then
    reader
  else if chunk = [] then
    reader.stop .stdinEOF
  else if maxPendingBytes < (reader.pending ++ chunk).length then
    { reader with pending := reader.pending ++ chunk }.stop .unexpected
  else
    { reader with pending := unfinishedLine lineBreak (reader.pending ++ chunk) }.take parse
      (completeLines lineBreak (reader.pending ++ chunk))

def read (chunks : List (List UInt8)) : InputReader := chunks.foldl (round parse) reader

end InputReader

/-! ## Commands up to a stop -/

section UpToStop

variable {Command : Type} {stops : Command → Bool} {commands more : List Command}

theorem upToStop_append_of_none (none' : commands.any stops = false) :
    upToStop stops (commands ++ more) = commands ++ upToStop stops more := by
  induction commands with
  | nil => rfl
  | cons command commands ih =>
      rw [any_cons, Bool.or_eq_false_iff] at none'
      rw [cons_append, upToStop, none'.1, if_neg Bool.false_ne_true, ih none'.2]
      rfl

theorem upToStop_of_none (none' : commands.any stops = false) :
    upToStop stops commands = commands := by
  have whole := @upToStop_append_of_none _ stops commands [] none'
  simpa [upToStop] using whole

/-- What follows a stop is not looked at. -/
theorem upToStop_append_of_any (some' : commands.any stops = true) :
    upToStop stops (commands ++ more) = upToStop stops commands := by
  induction commands with
  | nil => cases some'
  | cons command commands ih =>
      rw [cons_append, upToStop, upToStop]
      cases first : stops command with
      | true => rfl
      | false =>
          rw [any_cons, first, Bool.false_or] at some'
          rw [if_neg Bool.false_ne_true, if_neg Bool.false_ne_true, ih some']

end UpToStop

/-- The lines of a parent: each is within the bound and holds a command. -/
structure ValidLine {Command : Type} (command : List UInt8 → Option Command) (line : List UInt8) :
    Prop where
  unbroken : lineBreak ∉ line
  short : line.length ≤ maxInputLineBytes
  holds : (command line).isSome = true

/-! ## Chunks on the Linux host -/

namespace LinuxCommandReader

variable (parse : List UInt8 → Option JsonValue) (number : Option JsonField → Option ℚ)

def command (line : List UInt8) : Option LinuxHostCommand :=
  if 1 ≤ line.length ∧ line.length ≤ maxInputLineBytes then
    (parse line).bind (parseHostInput number)
  else
    none

/-- The commands of the complete lines of a text. -/
def commandsOf (text : List UInt8) : List LinuxHostCommand :=
  LinuxHost.commands parse number (completeLines lineBreak text)

/-- Until a stop is complete, a chunk and the line under way before it are within the bound, and no
command is completed behind a stop. -/
def Fits (text : List UInt8) : List (List UInt8) → Prop
  | [] => True
  | chunk :: chunks =>
      (commandsOf parse number text).any LinuxHostCommand.stops = false →
        (unfinishedLine lineBreak text ++ chunk).length ≤ maxPendingInputBytes ∧
        upToStop LinuxHostCommand.stops
            (commandsOf parse number (unfinishedLine lineBreak text ++ chunk)) =
          commandsOf parse number (unfinishedLine lineBreak text ++ chunk) ∧
        Fits (text ++ chunk) chunks

/-- A running reader that has read a text. -/
def after (text : List UInt8) : LinuxCommandReader :=
  ⟨none, unfinishedLine lineBreak text, commandsOf parse number text⟩

variable {parse : List UInt8 → Option JsonValue} {number : Option JsonField → Option ℚ}
  {reader : LinuxCommandReader}

theorem commandsOf_append (text more : List UInt8) :
    commandsOf parse number (text ++ more) = commandsOf parse number text ++
      commandsOf parse number (unfinishedLine lineBreak text ++ more) := by
  unfold commandsOf commands
  rw [(splitOn_append text more).1, filterMap_append]

theorem dispatch_eq (reader : LinuxCommandReader) (command : LinuxHostCommand) :
    reader.dispatch command =
      ⟨if command.stops then some (reader.stopReason.getD .explicitStop) else reader.stopReason,
        reader.pending, reader.dispatched ++ [command]⟩ := by
  unfold dispatch
  dsimp only
  split
  · unfold stopHost
    dsimp only
    cases same : reader.stopReason <;> rfl
  · rfl

/-- The loop dispatches all commands of a chunk, whatever stands before them. -/
theorem foldl_dispatch (running : reader.stopReason = none) (commands : List LinuxHostCommand) :
    commands.foldl dispatch reader =
      ⟨if commands.any LinuxHostCommand.stops then some .explicitStop else none, reader.pending,
        reader.dispatched ++ commands⟩ := by
  have folded (reader : LinuxCommandReader) (commands : List LinuxHostCommand) :
      commands.foldl dispatch reader =
        ⟨if commands.any LinuxHostCommand.stops then some (reader.stopReason.getD .explicitStop)
          else reader.stopReason, reader.pending, reader.dispatched ++ commands⟩ := by
    induction commands generalizing reader with
    | nil => simp
    | cons command commands ih =>
        rw [foldl_cons, ih, dispatch_eq, any_cons, append_assoc]
        cases command.stops <;> cases commands.any LinuxHostCommand.stops <;> rfl
  rw [folded, running]
  rfl

/-- A stopped reader reads no more. -/
theorem read_stopped (stopped : reader.stopReason ≠ none) (chunks : List (List UInt8)) :
    reader.read parse number chunks = reader := by
  induction chunks with
  | nil => rfl
  | cons chunk chunks ih =>
      have same : reader.data parse number chunk = reader := if_pos stopped
      unfold read at ih ⊢
      rw [foldl_cons, same, ih]

theorem data_after {text chunk : List UInt8}
    (within : (unfinishedLine lineBreak text ++ chunk).length ≤ maxPendingInputBytes) :
    (after parse number text).data parse number chunk =
      { after parse number (text ++ chunk) with
        stopReason := if (commandsOf parse number (unfinishedLine lineBreak text ++ chunk)).any
          LinuxHostCommand.stops then some .explicitStop else none } := by
  have small : ¬ maxPendingInputBytes < ((after parse number text).pending ++ chunk).length :=
    Nat.not_lt.mpr within
  unfold data
  rw [if_neg (fun some' => some' rfl), if_neg small, foldl_dispatch (by rfl)]
  unfold after
  rw [commandsOf_append, (splitOn_append text chunk).2]
  rfl

/-- From a running reader on, the chunks do no harm exactly if the commands up to the first stop
are dispatched and the bound is not hit. -/
theorem fits_iff {lines : List (List UInt8)} {text : List UInt8} {chunks : List (List UInt8)}
    (clean : ∀ line ∈ lines, lineBreak ∉ line)
    (free : (commandsOf parse number text).any LinuxHostCommand.stops = false)
    (whole : text ++ chunks.flatten = terminate lineBreak lines) :
    (((after parse number text).read parse number chunks).dispatched =
        upToStop LinuxHostCommand.stops (commands parse number lines) ∧
      ((after parse number text).read parse number chunks).stopReason ≠
        some .inputBufferBounds) ↔ Fits parse number text chunks := by
  induction chunks generalizing text with
  | nil =>
      rw [flatten_nil, append_nil] at whole
      have all : commandsOf parse number text = commands parse number lines := by
        unfold commandsOf
        rw [whole, completeLines_terminate clean]
      refine ⟨fun _ => trivial, fun _ => ⟨?_, fun no => by cases no⟩⟩
      rw [← all, upToStop_of_none free]
      rfl
  | cons chunk chunks ih =>
      rw [flatten_cons, ← append_assoc] at whole
      have split : (after parse number text).read parse number (chunk :: chunks) =
          ((after parse number text).data parse number chunk).read parse number chunks := rfl
      rw [split, Fits]
      by_cases within : (unfinishedLine lineBreak text ++ chunk).length ≤ maxPendingInputBytes
      · rw [data_after within]
        cases stop : (commandsOf parse number (unfinishedLine lineBreak text ++ chunk)).any
            LinuxHostCommand.stops with
        | false =>
            have free' : (commandsOf parse number (text ++ chunk)).any LinuxHostCommand.stops =
                false := by
              rw [commandsOf_append, any_append, free, stop]
              rfl
            have step := ih free' whole
            refine step.trans ⟨fun fits _ => ⟨within, upToStop_of_none stop, fits⟩, fun fits => ?_⟩
            exact (fits free).2.2
        | true =>
            have stopped : (commandsOf parse number (text ++ chunk)).any LinuxHostCommand.stops =
                true := by
              rw [commandsOf_append, any_append, stop, Bool.or_true]
            have through : Fits parse number (text ++ chunk) chunks := by
              cases chunks with
              | nil => trivial
              | cons => exact fun no => absurd (stopped.symm.trans no) (by decide)
            obtain ⟨rest, all, _⟩ := completeLines_arrived clean whole
            have parts : commands parse number lines =
                commandsOf parse number (text ++ chunk) ++
                  commands parse number rest := by
              conv_lhs => rw [all]
              exact filterMap_append
            rw [read_stopped (by simp), parts, upToStop_append_of_any stopped, commandsOf_append,
              upToStop_append_of_none free]
            dsimp only [after]
            rw [commandsOf_append]
            constructor
            · rintro ⟨same, _⟩ _
              exact ⟨within, (append_cancel_left same).symm, through⟩
            · intro fits
              exact ⟨by rw [(fits free).2.1], by simp⟩
      · have bounded : (after parse number text).data parse number chunk =
            ⟨some .inputBufferBounds, unfinishedLine lineBreak text ++ chunk,
              commandsOf parse number text⟩ := by
          have large : maxPendingInputBytes <
              ((after parse number text).pending ++ chunk).length := Nat.not_le.mp within
          unfold data
          rw [if_neg (fun some' => some' rfl), if_pos large]
          rfl
        rw [bounded, read_stopped (by simp)]
        exact ⟨fun holds => absurd rfl holds.2, fun fits => absurd (fits free).1 within⟩

/-! ## What the reader hands to the host -/

/-- The reader is where the handler of the host is, and the host has admitted its inputs. -/
structure Reads (reader : LinuxCommandReader) (host : LinuxHost) : Prop where
  stopReason : host.stopReason = reader.stopReason
  pending : host.pending = reader.pending
  admitted : host.admitted = reader.dispatched.countP LinuxHostCommand.isInput

theorem reads_stopHost {host : LinuxHost} (reads : Reads reader host) (reason : HostStopReason) :
    Reads (reader.stopHost reason) (host.stopHost reason) := by
  obtain ⟨stopReason, pending, admitted⟩ := reads
  unfold stopHost LinuxHost.stopHost
  rw [stopReason]
  cases same : reader.stopReason with
  | none => exact ⟨rfl, pending, admitted⟩
  | some reason => exact ⟨stopReason, pending, admitted⟩

theorem reads_dispatch {host : LinuxHost} (reads : Reads reader host)
    (command : LinuxHostCommand) : Reads (reader.dispatch command) (host.receive [command]) := by
  have counted : host.admitted + (if command.isInput then 1 else 0) =
      (reader.dispatched ++ [command]).countP LinuxHostCommand.isInput := by
    rw [countP_append, countP_singleton, reads.admitted]
  cases command with
  | stop =>
      have read : Reads { reader with dispatched := reader.dispatched ++ [.stop] } host :=
        ⟨reads.stopReason, reads.pending, counted⟩
      exact reads_stopHost read .explicitStop
  | requestIDR => exact ⟨reads.stopReason, reads.pending, counted⟩
  | input input => exact ⟨reads.stopReason, reads.pending, counted⟩

theorem receive_cons (host : LinuxHost) (command : LinuxHostCommand)
    (commands : List LinuxHostCommand) :
    host.receive (command :: commands) = (host.receive [command]).receive commands := by
  cases command <;> rfl

/-- A chunk takes reader and host on alike. -/
theorem reads_data {host : LinuxHost} (reads : Reads reader host) (chunk : List UInt8) :
    Reads (reader.data parse number chunk) (host.data parse number chunk) := by
  have commandsRead (reader : LinuxCommandReader) (host : LinuxHost) (reads : Reads reader host)
      (commands : List LinuxHostCommand) :
      Reads (commands.foldl dispatch reader) (host.receive commands) := by
    induction commands generalizing reader host with
    | nil => exact reads
    | cons command commands ih =>
        rw [foldl_cons, receive_cons]
        exact ih _ _ (reads_dispatch reads command)
  have arrived : host.arrived chunk = completeLines lineBreak (reader.pending ++ chunk) := by
    unfold LinuxHost.arrived
    rw [reads.pending]
    rfl
  have pending : host.pending ++ chunk = reader.pending ++ chunk := by rw [reads.pending]
  have stopReason : host.stopReason ≠ none ↔ reader.stopReason ≠ none := by rw [reads.stopReason]
  have cut (rest : List UInt8) :
      Reads { reader with pending := rest } { host with pending := rest } :=
    ⟨reads.stopReason, rfl, reads.admitted⟩
  unfold data LinuxHost.data
  by_cases stopped : reader.stopReason ≠ none
  · rw [if_pos stopped, if_pos (stopReason.mpr stopped)]
    exact reads
  rw [if_neg stopped, if_neg (mt stopReason.mp stopped), pending, arrived]
  split
  · exact reads_stopHost (cut _) _
  · exact commandsRead _ _ (cut _) _

end LinuxCommandReader

/-! ## Chunks on the macOS host -/

namespace InputReader

variable (parse : List UInt8 → Option JsonValue)

def commandsOf (text : List UInt8) : List MacHostCommand :=
  (completeLines lineBreak text).filterMap (command parse)

/-- A running reader that has read a text. -/
def after (text : List UInt8) : InputReader :=
  ⟨none, unfinishedLine lineBreak text, commandsOf parse text⟩

variable {parse : List UInt8 → Option JsonValue} {reader : InputReader}

theorem commandsOf_append (text more : List UInt8) :
    commandsOf parse (text ++ more) = commandsOf parse text ++
      commandsOf parse (unfinishedLine lineBreak text ++ more) := by
  unfold commandsOf
  rw [(splitOn_append text more).1, filterMap_append]

/-- The loop over the lines dispatches the commands up to a stop. -/
theorem take_eq (running : reader.exitReason = none) (lines : List (List UInt8)) :
    reader.take parse lines =
      ⟨if (lines.filterMap (command parse)).any MacHostCommand.stops then some .explicitStop
        else none, reader.pending,
        reader.dispatched ++ upToStop MacHostCommand.stops (lines.filterMap (command parse))⟩ := by
  induction lines generalizing reader with
  | nil =>
      rw [take, filterMap_nil, upToStop, append_nil, any_nil, ← running]
      rfl
  | cons line lines ih =>
      rw [take, filterMap_cons]
      cases held : command parse line with
      | none => exact ih running
      | some found =>
          have further := @ih (reader.dispatch found) running
          cases found with
          | stop =>
              unfold stop
              dsimp only [dispatch]
              rw [running]
              rfl
          | requestIDR =>
              dsimp only
              rw [further, any_cons, upToStop]
              dsimp only [dispatch]
              rw [append_assoc]
              rfl
          | apply object =>
              dsimp only
              rw [further, any_cons, upToStop]
              dsimp only [dispatch]
              rw [append_assoc]
              rfl

theorem read_stopped (stopped : reader.exitReason ≠ none) (chunks : List (List UInt8)) :
    reader.read parse chunks = reader := by
  induction chunks with
  | nil => rfl
  | cons chunk chunks ih =>
      have same : reader.round parse chunk = reader := if_pos stopped
      unfold read at ih ⊢
      rw [foldl_cons, same, ih]

theorem round_after {text chunk : List UInt8} (some' : chunk ≠ [])
    (within : (unfinishedLine lineBreak text ++ chunk).length ≤ maxPendingBytes) :
    (after parse text).round parse chunk =
      ⟨if (commandsOf parse (unfinishedLine lineBreak text ++ chunk)).any MacHostCommand.stops then
          some .explicitStop else none,
        unfinishedLine lineBreak (text ++ chunk),
        commandsOf parse text ++ upToStop MacHostCommand.stops
          (commandsOf parse (unfinishedLine lineBreak text ++ chunk))⟩ := by
  have small : ¬ maxPendingBytes < ((after parse text).pending ++ chunk).length :=
    Nat.not_lt.mpr within
  unfold round
  rw [if_neg (fun some' => some' rfl), if_neg some', if_neg small, take_eq (by rfl)]
  unfold after
  rw [(splitOn_append text chunk).2]
  rfl

/-- Short lines in small chunks stay within the bound, and the reader returns at the first stop. -/
theorem read_after {lines : List (List UInt8)} {text : List UInt8} {chunks : List (List UInt8)}
    (valid : ∀ line ∈ lines, ValidLine (command parse) line)
    (small : ∀ chunk ∈ chunks, chunk ≠ [] ∧ chunk.length ≤ bufferBytes)
    (free : (commandsOf parse text).any MacHostCommand.stops = false)
    (whole : text ++ chunks.flatten = terminate lineBreak lines) :
    ((after parse text).read parse chunks).dispatched =
        upToStop MacHostCommand.stops (lines.filterMap (command parse)) ∧
      ((after parse text).read parse chunks).exitReason ≠ some .unexpected := by
  have clean : ∀ line ∈ lines, lineBreak ∉ line := fun line mem => (valid line mem).unbroken
  induction chunks generalizing text with
  | nil =>
      rw [flatten_nil, append_nil] at whole
      have all : commandsOf parse text = lines.filterMap (command parse) := by
        unfold commandsOf
        rw [whole, completeLines_terminate clean]
      refine ⟨?_, fun no => by cases no⟩
      rw [← all, upToStop_of_none free]
      rfl
  | cons chunk chunks ih =>
      obtain ⟨some', few⟩ := small chunk mem_cons_self
      have smaller := fun other mem => small other (mem_cons_of_mem _ mem)
      have short : (unfinishedLine lineBreak text).length ≤ maxInputLineBytes :=
        length_unfinishedLine_le clean (fun line mem => (valid line mem).short) whole
      have within : (unfinishedLine lineBreak text ++ chunk).length ≤ maxPendingBytes := by
        rw [length_append]
        exact (Nat.add_le_add short few).trans (by decide)
      rw [flatten_cons, ← append_assoc] at whole
      have split : (after parse text).read parse (chunk :: chunks) =
          ((after parse text).round parse chunk).read parse chunks := rfl
      rw [split, round_after some' within]
      cases stop : (commandsOf parse (unfinishedLine lineBreak text ++ chunk)).any
          MacHostCommand.stops with
      | false =>
          have free' : (commandsOf parse (text ++ chunk)).any MacHostCommand.stops = false := by
            rw [commandsOf_append, any_append, free, stop]
            rfl
          have same : after parse (text ++ chunk) =
              ⟨none, unfinishedLine lineBreak (text ++ chunk),
                commandsOf parse text ++ upToStop MacHostCommand.stops
                  (commandsOf parse (unfinishedLine lineBreak text ++ chunk))⟩ := by
            unfold after
            rw [commandsOf_append, upToStop_of_none stop]
          rw [if_neg Bool.false_ne_true, ← same]
          exact ih smaller free' whole
      | true =>
          obtain ⟨rest, all, _⟩ := completeLines_arrived clean whole
          have parts : lines.filterMap (command parse) =
              commandsOf parse (text ++ chunk) ++ rest.filterMap (command parse) := by
            conv_lhs => rw [all]
            exact filterMap_append
          have stopped : (commandsOf parse (text ++ chunk)).any MacHostCommand.stops = true := by
            rw [commandsOf_append, any_append, stop, Bool.or_true]
          rw [read_stopped (by simp), parts, upToStop_append_of_any stopped,
            commandsOf_append text chunk, upToStop_append_of_none free]
          exact ⟨rfl, by simp⟩

end InputReader

/-! ## Both hosts -/

/-- Valid command lines in any chunks: the Linux host dispatches the commands up to the first stop,
and is not stopped by its bound, exactly if the chunks fit; the macOS host always does. -/
theorem hostCommands_dispatched (parse deserialize : List UInt8 → Option JsonValue)
    (number : Option JsonField → Option ℚ) (lines chunks : List (List UInt8))
    (whole : chunks.flatten = terminate lineBreak lines) :
    ((∀ line ∈ lines, ValidLine (LinuxCommandReader.command parse number) line) →
      ((((LinuxCommandReader.initial.read parse number chunks).dispatched =
          upToStop LinuxHostCommand.stops
            (lines.filterMap (LinuxCommandReader.command parse number)) ∧
        (LinuxCommandReader.initial.read parse number chunks).stopReason ≠
          some .inputBufferBounds)) ↔ LinuxCommandReader.Fits parse number [] chunks)) ∧
    ((∀ line ∈ lines, ValidLine (InputReader.command deserialize) line) →
      (∀ chunk ∈ chunks, chunk ≠ [] ∧ chunk.length ≤ InputReader.bufferBytes) →
      (InputReader.initial.read deserialize chunks).dispatched =
          upToStop MacHostCommand.stops (lines.filterMap (InputReader.command deserialize)) ∧
        (InputReader.initial.read deserialize chunks).exitReason ≠ some .unexpected) := by
  constructor
  · intro valid
    have clean : ∀ line ∈ lines, lineBreak ∉ line := fun line mem => (valid line mem).unbroken
    exact @LinuxCommandReader.fits_iff parse number lines [] chunks clean rfl whole
  · intro valid small
    exact @InputReader.read_after deserialize lines [] chunks valid small rfl whole

/-! ## Sample commands -/

def sampleBytes (text : String) : List UInt8 := text.toList.map fun c => UInt8.ofNat c.toNat

def sampleStop : List UInt8 := sampleBytes "\x7b\"kind\":\"stop\"\x7d"

def sampleIdr : List UInt8 := sampleBytes "\x7b\"kind\":\"requestIDR\"\x7d"

/-- `JSON.parse` of the two sample lines. -/
def sampleDecoded (line : List UInt8) : Option JsonValue :=
  if line = sampleStop then some (.object [("kind", .string "stop")])
  else if line = sampleIdr then some (.object [("kind", .string "requestIDR")])
  else none

def sampleConversion : Option JsonField → Option ℚ := fun _ => none

theorem sampleLines_valid :
    (∀ line ∈ [sampleIdr, sampleStop, sampleIdr],
      ValidLine (LinuxCommandReader.command sampleDecoded sampleConversion) line) ∧
    ∀ line ∈ [sampleIdr, sampleStop, sampleIdr],
      ValidLine (InputReader.command sampleDecoded) line := by
  constructor
  · intro line mem
    simp only [mem_cons, not_mem_nil, or_false] at mem
    rcases mem with rfl | rfl | rfl <;> exact ⟨by decide, by decide, by decide⟩
  · intro line mem
    simp only [mem_cons, not_mem_nil, or_false] at mem
    rcases mem with rfl | rfl | rfl <;> exact ⟨by decide, by decide, by decide⟩

/-- The last line comes in a chunk of its own. -/
def sampleChunks : List (List UInt8) :=
  [sampleIdr ++ [lineBreak] ++ sampleStop.take 3, sampleStop.drop 3 ++ [lineBreak],
    sampleIdr ++ [lineBreak]]

theorem sampleChunks_dispatched :
    (LinuxCommandReader.initial.read sampleDecoded sampleConversion sampleChunks).dispatched =
        [.requestIDR, .stop] ∧
      (InputReader.initial.read sampleDecoded sampleChunks).dispatched = [.requestIDR, .stop] := by
  obtain ⟨linux, macOS⟩ := hostCommands_dispatched sampleDecoded sampleDecoded sampleConversion
    [sampleIdr, sampleStop, sampleIdr] sampleChunks (by decide)
  obtain ⟨valid, valid'⟩ := sampleLines_valid
  refine ⟨((linux valid).mpr ?_).1, (macOS valid' (by decide)).1⟩
  simp only [LinuxCommandReader.Fits, sampleChunks]
  decide

/-- In one chunk the request behind the stop is dispatched as well. -/
theorem sampleCommands_misread :
    (∀ line ∈ [sampleIdr, sampleStop, sampleIdr],
      ValidLine (LinuxCommandReader.command sampleDecoded sampleConversion) line) ∧
    (LinuxCommandReader.initial.read sampleDecoded sampleConversion
      [terminate lineBreak [sampleIdr, sampleStop, sampleIdr]]).dispatched ≠
        upToStop LinuxHostCommand.stops ([sampleIdr, sampleStop, sampleIdr].filterMap
          (LinuxCommandReader.command sampleDecoded sampleConversion)) :=
  ⟨sampleLines_valid.1, by decide⟩

end ExecutionHandoff.Host
