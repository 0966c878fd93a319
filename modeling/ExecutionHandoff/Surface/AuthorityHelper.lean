import ExecutionHandoff.Library.LineStream
import ExecutionHandoff.Library.Requests
import ExecutionHandoff.Library.Runs
import ExecutionHandoff.Library.Text

/-!
# The Linux authority helper

`LinuxWindowAuthorityHelper` and the process behind it.  Queries are written one
at a time and replies are matched by position: the reply that arrives settles
whatever query waits.  A reply is its query's own as long as none is written
while an earlier one is still owed a reply.
-/

namespace ExecutionHandoff.Surface

open Library List
open Option (map_eq_some_iff)

inductive LinuxWindowAuthorityResult where
  | visibleOwnerGeometryValid
  | windowNotVisible
  | ownerChanged
  | geometryUnavailable
  deriving DecidableEq

namespace LinuxWindowAuthorityResult

/-- What the process prints once it has validated the window. -/
def line : LinuxWindowAuthorityResult → String
  | .visibleOwnerGeometryValid => "OK"
  | .windowNotVisible => "ERR VISIBILITY"
  | .ownerChanged => "ERR OWNER"
  | .geometryUnavailable => "ERR GEOMETRY"

def ofLine (line : String) : Except String LinuxWindowAuthorityResult :=
  if line = "OK" then .ok .visibleOwnerGeometryValid
  else if line = "ERR VISIBILITY" then .ok .windowNotVisible
  else if line = "ERR OWNER" then .ok .ownerChanged
  else if line = "ERR GEOMETRY" then .ok .geometryUnavailable
  else .error "Linux WSS authority helper protocol mismatch"

theorem ofLine_line (result : LinuxWindowAuthorityResult) :
    ofLine (trim (String.ofList result.line.toList)) = .ok result := by
  cases result <;> decide +kernel

theorem line_unbroken (result : LinuxWindowAuthorityResult) : '\n' ∉ result.line.toList := by
  cases result <;> decide

end LinuxWindowAuthorityResult

/-! ## The process -/

/-- A line written to the process. -/
inductive AuthorityCommand where
  | query (query : Nat)
  | close
  deriving DecidableEq

/-- The process with what has been written to it and what it has printed, as far as neither has
been read yet. -/
structure AuthorityProcess where
  announced : Bool
  exited : Bool
  stdin : List AuthorityCommand
  stdout : List Char
  answered : List (Nat × LinuxWindowAuthorityResult)
  deriving DecidableEq

namespace AuthorityProcess

def initial : AuthorityProcess := ⟨false, false, [], [], []⟩

variable (process : AuthorityProcess)

def puts (line : String) : AuthorityProcess :=
  { process with stdout := process.stdout ++ (line.toList ++ ['\n']) }

def write (command : AuthorityCommand) : AuthorityProcess :=
  { process with stdin := process.stdin ++ [command] }

def announce : Option AuthorityProcess :=
  if process.announced ∨ process.exited then none
  else some { process.puts "READY 1" with announced := true }

/-- A turn of the read loop; the window is in a state only the process can see. -/
def turn (result : LinuxWindowAuthorityResult) : Option AuthorityProcess :=
  if process.announced = false ∨ process.exited then
    none
  else
    match process.stdin with
    | [] => none
    | .query query :: rest =>
        some
          { process.puts result.line with
            stdin := rest, answered := (query, result) :: process.answered }
    | .close :: rest => some { process.puts "OK CLOSE" with stdin := rest, exited := true }

end AuthorityProcess

/-! ## The helper -/

/-- `queries` counts the calls of `query`; each is named by its number. -/
structure LinuxWindowAuthorityHelper where
  output : List Char
  ready : Bool
  pending : Option Nat
  queries : Nat
  queryChain : List Nat
  closing : Bool
  outcomes : List (Nat × Except String LinuxWindowAuthorityResult)
  child : AuthorityProcess
  deriving DecidableEq

inductive AuthorityEvent where
  | query
  /-- The chain reaches its next query. -/
  | queryOnce
  | timeout
  | close
  /-- So many characters of what the process printed arrive. -/
  | data (count : Nat)
  /-- The process or a write to it has failed, or its streams have closed. -/
  | failed (message : String)
  | announce
  | turn (result : LinuxWindowAuthorityResult)
  | exit
  deriving DecidableEq

namespace LinuxWindowAuthorityHelper

def initial : LinuxWindowAuthorityHelper := ⟨[], false, none, 0, [], false, [], .initial⟩

variable (helper : LinuxWindowAuthorityHelper)

def settle (query : Nat) (outcome : Except String LinuxWindowAuthorityResult) :
    LinuxWindowAuthorityHelper :=
  { helper with pending := none, outcomes := (query, outcome) :: helper.outcomes }

def fail (message : String) : LinuxWindowAuthorityHelper :=
  match helper.pending with
  | none => helper
  | some query => helper.settle query (.error message)

def query : LinuxWindowAuthorityHelper :=
  { helper with queries := helper.queries + 1, queryChain := helper.queryChain ++ [helper.queries] }

/-- A query is written only then. -/
def available : Bool := helper.ready && !helper.closing && !helper.child.exited

def queryOnce (query : Nat) : LinuxWindowAuthorityHelper :=
  if helper.available then
    { helper with pending := some query, child := helper.child.write (.query query) }
  else
    helper.settle query (.error "Linux WSS authority helper is unavailable")

def close : LinuxWindowAuthorityHelper :=
  if helper.closing then
    helper
  else
    let closed := { helper.fail "Linux WSS authority helper closed" with closing := true }
    if helper.child.exited then closed
    else { closed with child := helper.child.write .close }

/-- A line after the first settles the query that waits, if there is one. -/
def reply (line : String) : LinuxWindowAuthorityHelper :=
  match helper.pending with
  | none => helper
  | some query => helper.settle query (LinuxWindowAuthorityResult.ofLine line)

/-- The loop over the complete lines; a first line that is not the announcement ends it. -/
def consumeLines (rest : List Char) :
    LinuxWindowAuthorityHelper → List (List Char) → LinuxWindowAuthorityHelper
  | helper, [] => { helper with output := rest }
  | helper, line :: lines =>
      if helper.ready then
        consumeLines rest (helper.reply (trim (String.ofList line))) lines
      else if trim (String.ofList line) = "READY 1" then
        consumeLines rest { helper with ready := true } lines
      else
        { helper.fail "Linux WSS authority helper protocol mismatch" with
          output := writeLines lines ++ rest }

def consume (chunk : List Char) : LinuxWindowAuthorityHelper :=
  let output := helper.output ++ chunk
  if 1024 < codeUnits (String.ofList output) then
    { helper.fail "Linux WSS authority helper output exceeded bounds" with output }
  else
    consumeLines (readLines output).2 helper (readLines output).1

/-- The chain goes on once the query before has settled. -/
def advanceChain : Option LinuxWindowAuthorityHelper :=
  match helper.pending, helper.queryChain with
  | none, query :: rest => some ({ helper with queryChain := rest }.queryOnce query)
  | _, _ => none

def next : AuthorityEvent → Option LinuxWindowAuthorityHelper
  | .query => some helper.query
  | .queryOnce => helper.advanceChain
  | .timeout =>
      helper.pending.map fun query =>
        helper.settle query (.error "Linux WSS authority helper query timed out")
  | .close => some helper.close
  | .data count =>
      some ({ helper with
        child := { helper.child with stdout := helper.child.stdout.drop count } }.consume
          (helper.child.stdout.take count))
  | .failed message => some (helper.fail message)
  | .announce => helper.child.announce.map fun child => { helper with child }
  | .turn result => (helper.child.turn result).map fun child => { helper with child }
  | .exit => some { helper with child := { helper.child with exited := true } }

abbrev Step : LinuxWindowAuthorityHelper → AuthorityEvent → LinuxWindowAuthorityHelper → Prop :=
  StepOf next

/-! ## Whose reply it is -/

variable {helper helper' : LinuxWindowAuthorityHelper}

/-- Everything the process still owes or has under way is about one query. -/
def Own (helper : LinuxWindowAuthorityHelper) (query : Nat) : Prop :=
  helper.output ++ helper.child.stdout = [] ∧ helper.child.stdin = [.query query] ∨
  helper.child.stdin = [] ∧ ∃ result, (query, result) ∈ helper.child.answered ∧
    helper.output ++ helper.child.stdout = writeLines [result.line.toList]

/-- A query resolves only with a reply of the process to it. -/
def Truthful (helper : LinuxWindowAuthorityHelper) : Prop :=
  ∀ query result, (query, .ok result) ∈ helper.outcomes → (query, result) ∈ helper.child.answered

structure Attributed (helper : LinuxWindowAuthorityHelper) : Prop where
  truthful : helper.Truthful
  own : ∀ query, helper.pending = some query → helper.ready = true ∧ helper.Own query

/-- No reply is owed or under way when a query is written. -/
def Unowed (helper : LinuxWindowAuthorityHelper) (event : AuthorityEvent) : Prop :=
  event = .queryOnce → helper.available = true →
    helper.child.stdin = [] ∧ helper.output ++ helper.child.stdout = []

instance (helper : LinuxWindowAuthorityHelper) (event : AuthorityEvent) :
    Decidable (helper.Unowed event) :=
  inferInstanceAs (Decidable (_ → _ → _))

theorem initial_attributed : Attributed initial :=
  ⟨fun _ _ no => (by cases no), fun _ no => by cases no⟩

/-- While no query waits, only what has been resolved matters. -/
theorem attributed_idle (idle : helper.pending = none) (truthful : helper.Truthful) :
    Attributed helper :=
  ⟨truthful, fun query waits => by cases idle.symm.trans waits⟩

theorem settle_truthful {query : Nat} {outcome : Except String LinuxWindowAuthorityResult}
    (truthful : helper.Truthful)
    (answered : ∀ result, outcome = .ok result → (query, result) ∈ helper.child.answered) :
    (helper.settle query outcome).Truthful := by
  intro other result mem
  rcases mem_cons.mp mem with same | mem
  · cases same
    exact answered result rfl
  · exact truthful other result mem

theorem settle_error_attributed (truthful : helper.Truthful) (query : Nat) (message : String) :
    Attributed (helper.settle query (.error message)) :=
  attributed_idle rfl (settle_truthful truthful fun _ no => by cases no)

theorem fail_pending (helper : LinuxWindowAuthorityHelper) (message : String) :
    (helper.fail message).pending = none := by
  unfold fail
  split
  · assumption
  · rfl

theorem fail_attributed (truthful : helper.Truthful) (message : String) :
    Attributed (helper.fail message) := by
  unfold fail
  split
  · rename_i idle
    exact attributed_idle idle truthful
  · exact settle_error_attributed truthful _ message

theorem consumeLines_idle (rest : List Char) {lines : List (List Char)}
    (idle : helper.pending = none) :
    (consumeLines rest helper lines).pending = none ∧
      (consumeLines rest helper lines).outcomes = helper.outcomes ∧
      (consumeLines rest helper lines).child = helper.child := by
  induction lines generalizing helper with
  | nil => exact ⟨idle, rfl, rfl⟩
  | cons line lines ih =>
      unfold consumeLines
      split
      · have unheard : helper.reply (trim (String.ofList line)) = helper := by
          unfold reply
          rw [idle]
        rw [unheard]
        exact ih idle
      · split
        · exact @ih { helper with ready := true } idle
        · have quiet (message : String) : helper.fail message = helper := by
            unfold fail
            rw [idle]
          rw [quiet]
          exact ⟨idle, rfl, rfl⟩

/-- Whatever arrives, an idle helper settles nothing. -/
theorem consume_idle (chunk : List Char) (idle : helper.pending = none)
    (truthful : helper.Truthful) : Attributed (helper.consume chunk) := by
  unfold consume
  dsimp only
  split
  · have failed := fail_attributed truthful "Linux WSS authority helper output exceeded bounds"
    exact attributed_idle (fail_pending helper _) failed.truthful
  · obtain ⟨still, outcomes, child⟩ :=
      consumeLines_idle (readLines (helper.output ++ chunk)).2 idle
    refine attributed_idle still fun query result mem => ?_
    rw [child]
    exact truthful query result (outcomes ▸ mem)

/-- What arrives while a query waits is part of its own reply. -/
theorem consume_waiting {query count : Nat} {stdout : List Char}
    (waits : helper.pending = some query) (truthful : helper.Truthful) (ready : helper.ready = true)
    (left : helper.child.stdout = stdout.drop count)
    (own : helper.output ++ stdout = [] ∧ helper.child.stdin = [.query query] ∨
      helper.child.stdin = [] ∧ ∃ result, (query, result) ∈ helper.child.answered ∧
        helper.output ++ stdout = writeLines [result.line.toList]) :
    Attributed (helper.consume (stdout.take count)) := by
  have whole : (helper.output ++ stdout.take count) ++ helper.child.stdout =
      helper.output ++ stdout := by
    rw [left, append_assoc, take_append_drop]
  unfold consume
  dsimp only
  split
  · have failed := fail_attributed truthful "Linux WSS authority helper output exceeded bounds"
    exact attributed_idle (fail_pending helper _) failed.truthful
  rcases own with ⟨silent, asked⟩ | ⟨asked, result, answered, said⟩
  · rw [silent] at whole
    obtain ⟨nothing, none⟩ := append_eq_nil_iff.mp whole
    rw [nothing]
    refine ⟨truthful, fun other waits' => ⟨ready, ?_⟩⟩
    cases waits.symm.trans waits'
    exact .inl ⟨none, asked⟩
  · have unbroken : Unbroken [result.line.toList] := by
      intro line mem
      cases mem_singleton.mp mem
      exact result.line_unbroken
    obtain ⟨later, lines, under⟩ := readLines_arrived unbroken (whole.trans said)
    cases arrived : (readLines (helper.output ++ stdout.take count)).1 with
    | nil =>
        rw [arrived] at lines
        refine ⟨truthful, fun other waits' => ⟨ready, ?_⟩⟩
        cases waits.symm.trans waits'
        refine .inr ⟨asked, result, answered, ?_⟩
        rw [lines]
        exact under
    | cons line more =>
        rw [arrived] at lines
        obtain ⟨rfl, over'⟩ := List.cons.inj lines
        obtain ⟨rfl, _⟩ := append_eq_nil_iff.mp over'.symm
        have replied : helper.reply (trim (String.ofList result.line.toList)) =
            helper.settle query (.ok result) := by
          unfold reply
          rw [waits, LinuxWindowAuthorityResult.ofLine_line]
        unfold consumeLines
        rw [if_pos ready, replied]
        refine attributed_idle rfl (settle_truthful truthful ?_)
        rintro _ ⟨⟩
        exact answered

/-! ## Steps -/

/-- Before the announcement the process has said nothing, and no query is written. -/
def Hushed (helper : LinuxWindowAuthorityHelper) : Prop :=
  helper.child.announced = false →
    helper.ready = false ∧ helper.output = [] ∧ helper.child.stdout = []

theorem fail_keeps (helper : LinuxWindowAuthorityHelper) (message : String) :
    (helper.fail message).ready = helper.ready ∧ (helper.fail message).output = helper.output ∧
      (helper.fail message).child = helper.child := by
  unfold fail
  split <;> exact ⟨rfl, rfl, rfl⟩

theorem consumeLines_child (rest : List Char) (lines : List (List Char)) :
    (consumeLines rest helper lines).child = helper.child := by
  induction lines generalizing helper with
  | nil => rfl
  | cons line lines ih =>
      unfold consumeLines
      split
      · rw [ih]
        unfold reply
        split <;> rfl
      · split
        · exact ih
        · exact (fail_keeps helper _).2.2

theorem consume_child (chunk : List Char) : (helper.consume chunk).child = helper.child := by
  unfold consume
  dsimp only
  split
  · exact (fail_keeps helper _).2.2
  · exact consumeLines_child _ _

theorem step_hushed {event : AuthorityEvent} (step : Step helper event helper')
    (hushed : Hushed helper) : Hushed helper' := by
  change next helper event = some helper' at step
  intro silent
  cases event with
  | query =>
      cases step
      exact hushed silent
  | queryOnce =>
      change helper.advanceChain = some helper' at step
      unfold advanceChain at step
      split at step
      · cases step
        unfold queryOnce at silent ⊢
        split
        · rename_i available
          rw [if_pos available] at silent
          exact hushed silent
        · rename_i unavailable
          rw [if_neg unavailable] at silent
          exact hushed silent
      · cases step
  | timeout =>
      obtain ⟨query, _, rfl⟩ := map_eq_some_iff.mp step
      exact hushed silent
  | close =>
      cases step
      obtain ⟨ready, output, child⟩ := fail_keeps helper "Linux WSS authority helper closed"
      unfold close at silent ⊢
      split
      · rename_i closing
        rw [if_pos closing] at silent
        exact hushed silent
      · rename_i still
        rw [if_neg still] at silent
        dsimp only at silent ⊢
        split
        · rename_i exited
          rw [if_pos exited] at silent
          change (helper.fail _).child.announced = false at silent
          rw [child] at silent
          have quiet := hushed silent
          exact ⟨ready.trans quiet.1, output.trans quiet.2.1, (congrArg _ child).trans quiet.2.2⟩
        · rename_i running
          rw [if_neg running] at silent
          have quiet := hushed silent
          exact ⟨ready.trans quiet.1, output.trans quiet.2.1, quiet.2.2⟩
  | data count =>
      cases step
      rw [consume_child] at silent
      obtain ⟨ready, output, stdout⟩ := hushed silent
      have nothing : helper.output ++ helper.child.stdout.take count = [] := by
        rw [output, stdout, take_nil, append_nil]
      unfold consume
      dsimp only
      rw [nothing]
      refine ⟨ready, rfl, ?_⟩
      change helper.child.stdout.drop count = []
      rw [stdout, drop_nil]
  | failed message =>
      cases step
      obtain ⟨ready, output, child⟩ := fail_keeps helper message
      rw [child] at silent
      obtain ⟨unready, empty, quiet⟩ := hushed silent
      exact ⟨ready.trans unready, output.trans empty, (congrArg _ child).trans quiet⟩
  | announce =>
      obtain ⟨child, announced, rfl⟩ := map_eq_some_iff.mp step
      unfold AuthorityProcess.announce at announced
      split at announced
      · cases announced
      · cases announced
        cases silent
  | turn result =>
      obtain ⟨child, turned, rfl⟩ := map_eq_some_iff.mp step
      unfold AuthorityProcess.turn at turned
      split at turned
      · cases turned
      · rename_i running
        split at turned
        · cases turned
        · cases turned
          exact absurd (.inl silent) running
        · cases turned
          exact absurd (.inl silent) running
  | exit =>
      cases step
      exact hushed silent

/-- A turn answers the query that was written first. -/
theorem turn_cases {process process' : AuthorityProcess} {result : LinuxWindowAuthorityResult}
    (turned : process.turn result = some process') :
    (∃ query rest, process.stdin = .query query :: rest ∧ process'.stdin = rest ∧
      process'.stdout = process.stdout ++ writeLines [result.line.toList] ∧
      process'.answered = (query, result) :: process.answered) ∨
    ∃ rest, process.stdin = .close :: rest ∧ process'.stdin = rest ∧
      process'.answered = process.answered := by
  unfold AuthorityProcess.turn at turned
  split at turned
  · cases turned
  · split at turned
    · cases turned
    · rename_i query rest written
      cases turned
      exact .inl ⟨query, rest, written, rfl, rfl, rfl⟩
    · rename_i rest written
      cases turned
      exact .inr ⟨rest, written, rfl, rfl⟩

theorem step_attributed {event : AuthorityEvent} (step : Step helper event helper')
    (unowed : helper.Unowed event) (hushed : Hushed helper) (attributed : Attributed helper) :
    Attributed helper' := by
  change next helper event = some helper' at step
  obtain ⟨truthful, own⟩ := attributed
  cases event with
  | query =>
      cases step
      exact ⟨truthful, own⟩
  | queryOnce =>
      change helper.advanceChain = some helper' at step
      unfold advanceChain at step
      split at step
      · rename_i idle _
        cases step
        unfold queryOnce
        split
        · rename_i query rest _ _ available
          obtain ⟨asked, silent⟩ := unowed rfl available
          refine ⟨truthful, ?_⟩
          rintro _ ⟨⟩
          obtain ⟨ready, _⟩ := Bool.and_eq_true_iff.mp (Bool.and_eq_true_iff.mp available).1
          refine ⟨ready, .inl ⟨silent, ?_⟩⟩
          change helper.child.stdin ++ [_] = _
          rw [asked]
          rfl
        · exact attributed_idle rfl (settle_truthful truthful fun _ no => by cases no)
      · cases step
  | timeout =>
      obtain ⟨query, _, rfl⟩ := map_eq_some_iff.mp step
      exact settle_error_attributed truthful query _
  | close =>
      cases step
      have failed := (fail_attributed truthful "Linux WSS authority helper closed").truthful
      have idle := fail_pending helper "Linux WSS authority helper closed"
      obtain ⟨_, _, child⟩ := fail_keeps helper "Linux WSS authority helper closed"
      unfold close
      split
      · exact ⟨truthful, own⟩
      · dsimp only
        split
        · exact attributed_idle idle failed
        · refine attributed_idle idle fun query result mem => ?_
          have answered := failed query result mem
          rw [child] at answered
          exact answered
  | data count =>
      cases step
      rcases Option.eq_none_or_eq_some helper.pending with idle | ⟨query, waits⟩
      · exact @consume_idle
          { helper with child := { helper.child with stdout := helper.child.stdout.drop count } }
          (helper.child.stdout.take count) idle truthful
      · obtain ⟨ready, own⟩ := own query waits
        exact @consume_waiting
          { helper with child := { helper.child with stdout := helper.child.stdout.drop count } }
          query count helper.child.stdout waits truthful ready rfl own
  | failed message =>
      cases step
      exact fail_attributed truthful message
  | announce =>
      obtain ⟨child, announced, rfl⟩ := map_eq_some_iff.mp step
      unfold AuthorityProcess.announce at announced
      split at announced
      · cases announced
      · rename_i unannounced
        cases announced
        refine ⟨truthful, fun query waits => ?_⟩
        have early : helper.child.announced = false := by
          cases announced : helper.child.announced with
          | false => rfl
          | true => exact absurd (.inl announced) unannounced
        cases (own query waits).1.symm.trans (hushed early).1
  | turn result =>
      obtain ⟨child, turned, rfl⟩ := map_eq_some_iff.mp step
      rcases turn_cases turned with ⟨query, rest, asked, left, said, answered⟩ |
        ⟨rest, asked, left, answered⟩
      · refine ⟨fun other result' mem => ?_, fun other waits => ?_⟩
        · change (other, result') ∈ child.answered
          rw [answered]
          exact mem_cons_of_mem _ (truthful other result' mem)
        · obtain ⟨ready, ⟨silent, mine⟩ | ⟨nothing, _⟩⟩ := own other waits
          · rw [asked] at mine
            obtain ⟨same, rfl⟩ := List.cons.inj mine
            cases same
            refine ⟨ready, .inr ⟨left, result, ?_, ?_⟩⟩
            · change (query, result) ∈ child.answered
              rw [answered]
              exact mem_cons_self
            · change helper.output ++ child.stdout = _
              rw [said, ← append_assoc, silent]
              rfl
          · cases asked.symm.trans nothing
      · refine ⟨fun other result' mem => ?_, fun other waits => ?_⟩
        · change (other, result') ∈ child.answered
          rw [answered]
          exact truthful other result' mem
        · obtain ⟨_, ⟨_, mine⟩ | ⟨nothing, _⟩⟩ := own other waits
          · rw [asked] at mine
            cases mine
          · cases asked.symm.trans nothing
  | exit =>
      cases step
      exact ⟨truthful, own⟩

/-! ## Every query is answered once -/

/-- The queries among the lines written to the process. -/
def asked (commands : List AuthorityCommand) : List Nat :=
  commands.filterMap fun
    | .query query => some query
    | .close => none

/-- The queries are answered in the order they were made. -/
def Numbered (helper : LinuxWindowAuthorityHelper) : Prop :=
  InOrder (helper.child.answered.map Prod.fst) (asked helper.child.stdin) helper.queryChain
    helper.queries

theorem asked_append (before after : List AuthorityCommand) :
    asked (before ++ after) = asked before ++ asked after :=
  filterMap_append

/-- Settling queries and reading what the process says does not touch them. -/
theorem numbered_of_keeps (numbered : Numbered helper) (queries : helper'.queries = helper.queries)
    (chain : helper'.queryChain = helper.queryChain) (child : helper'.child = helper.child) :
    Numbered helper' := by
  unfold Numbered
  rw [queries, chain, child]
  exact numbered

theorem fail_chain (helper : LinuxWindowAuthorityHelper) (message : String) :
    (helper.fail message).queries = helper.queries ∧
      (helper.fail message).queryChain = helper.queryChain := by
  unfold fail
  split <;> exact ⟨rfl, rfl⟩

theorem consumeLines_chain (rest : List Char) (lines : List (List Char)) :
    (consumeLines rest helper lines).queries = helper.queries ∧
      (consumeLines rest helper lines).queryChain = helper.queryChain := by
  induction lines generalizing helper with
  | nil => exact ⟨rfl, rfl⟩
  | cons line lines ih =>
      unfold consumeLines
      split
      · obtain ⟨queries, chain⟩ := @ih (helper.reply (trim (String.ofList line)))
        rw [queries, chain]
        unfold reply
        split <;> exact ⟨rfl, rfl⟩
      · split
        · exact ih
        · exact fail_chain helper _

theorem consume_chain (chunk : List Char) :
    (helper.consume chunk).queries = helper.queries ∧
      (helper.consume chunk).queryChain = helper.queryChain := by
  unfold consume
  dsimp only
  split
  · exact fail_chain helper _
  · exact consumeLines_chain _ _

theorem step_numbered {event : AuthorityEvent} (step : Step helper event helper')
    (numbered : Numbered helper) : Numbered helper' := by
  change next helper event = some helper' at step
  cases event with
  | query =>
      cases step
      exact InOrder.make numbered
  | queryOnce =>
      change helper.advanceChain = some helper' at step
      unfold advanceChain at step
      split at step
      · rename_i query rest _ chain
        cases step
        unfold Numbered at numbered
        rw [chain] at numbered
        unfold queryOnce
        split
        · change InOrder _ (asked (helper.child.stdin ++ [.query query])) rest _
          rw [asked_append]
          exact numbered.write
        · exact numbered.forget
      · cases step
  | timeout =>
      obtain ⟨query, _, rfl⟩ := map_eq_some_iff.mp step
      exact numbered
  | close =>
      cases step
      obtain ⟨queries, chain⟩ := fail_chain helper "Linux WSS authority helper closed"
      obtain ⟨_, _, child⟩ := fail_keeps helper "Linux WSS authority helper closed"
      unfold close
      split
      · exact numbered
      · dsimp only
        split
        · exact numbered_of_keeps numbered queries chain child
        · refine @numbered_of_keeps { helper with child := helper.child.write .close } _ ?_ queries
            chain rfl
          change InOrder _ (asked (helper.child.stdin ++ [.close])) _ _
          rw [asked_append]
          change InOrder _ (asked helper.child.stdin ++ []) _ _
          rw [append_nil]
          exact numbered
  | data count =>
      cases step
      obtain ⟨queries, chain⟩ := @consume_chain
        { helper with child := { helper.child with stdout := helper.child.stdout.drop count } }
        (helper.child.stdout.take count)
      unfold Numbered
      rw [queries, chain, consume_child]
      exact numbered
  | failed message =>
      cases step
      obtain ⟨queries, chain⟩ := fail_chain helper message
      exact numbered_of_keeps numbered queries chain (fail_keeps helper message).2.2
  | announce =>
      obtain ⟨child, announced, rfl⟩ := map_eq_some_iff.mp step
      unfold AuthorityProcess.announce at announced
      split at announced
      · cases announced
      · cases announced
        exact numbered
  | turn result =>
      obtain ⟨child, turned, rfl⟩ := map_eq_some_iff.mp step
      unfold Numbered at numbered ⊢
      dsimp only
      rcases turn_cases turned with ⟨query, rest, written, left, _, answered⟩ |
        ⟨rest, written, left, answered⟩
      · rw [left, answered]
        rw [written] at numbered
        exact numbered.handle
      · rw [left, answered]
        rw [written] at numbered
        exact numbered
  | exit =>
      cases step
      exact numbered

/-! ## Runs -/

/-- When no query is written while a reply is owed, the value a query resolves with is the reply
of the process to that query, and the only one. -/
theorem run_correlated {events : List AuthorityEvent} {last : LinuxWindowAuthorityHelper}
    (run : Run (Guarded Step Unowed) initial events last) {query : Nat}
    {result : LinuxWindowAuthorityResult} (resolved : (query, .ok result) ∈ last.outcomes)
    (reply : LinuxWindowAuthorityResult) :
    (query, reply) ∈ last.child.answered ↔ reply = result := by
  have sound : Attributed last ∧ Hushed last ∧ Numbered last := by
    refine @Run.invariant _ _ _ (fun helper => Attributed helper ∧ Hushed helper ∧ Numbered helper)
      _ _ _ run ?_ ⟨initial_attributed, fun _ => ⟨rfl, rfl, rfl⟩, .start⟩
    rintro first event last ⟨step, unowed⟩ ⟨attributed, hushed, numbered⟩
    exact ⟨step_attributed step unowed hushed attributed, step_hushed step hushed,
      step_numbered step numbered⟩
  obtain ⟨attributed, _, numbered⟩ := sound
  have answered := attributed.truthful query result resolved
  constructor
  · exact fun other => numbered.unique other answered
  · rintro rfl
    exact answered

/-- A query is asked and answered in two chunks. -/
def sampleAnswered : List AuthorityEvent :=
  [.announce, .data 8, .query, .queryOnce, .turn .ownerChanged, .data 4, .data 6]

theorem sampleAnswered_correlated :
    ∃ last : LinuxWindowAuthorityHelper, (0, .ok .ownerChanged) ∈ last.outcomes ∧
      ∀ reply, (0, reply) ∈ last.child.answered ↔ reply = .ownerChanged := by
  obtain ⟨last, executed, resolved⟩ : ∃ last,
      execute (permitted next Unowed) initial sampleAnswered = some last ∧
      (0, .ok .ownerChanged) ∈ last.outcomes := by
    refine ⟨_, rfl, ?_⟩
    decide +kernel
  exact ⟨last, resolved, run_correlated (run_guarded_of_execute executed) resolved⟩

/-- The reply to a query that has timed out settles the query after it, which the process answers
otherwise. -/
theorem sampleLate_misattributed :
    ∃ last, Run Step initial
      [.announce, .data 8, .query, .queryOnce, .timeout, .query, .queryOnce,
        .turn .visibleOwnerGeometryValid, .data 3, .turn .windowNotVisible] last ∧
      (1, .ok .visibleOwnerGeometryValid) ∈ last.outcomes ∧
      (1, .windowNotVisible) ∈ last.child.answered ∧
      (1, .visibleOwnerGeometryValid) ∉ last.child.answered := by
  refine ⟨_, (run_iff_execute _ _ _ _).mpr rfl, ?_⟩
  decide +kernel

end LinuxWindowAuthorityHelper

end ExecutionHandoff.Surface
