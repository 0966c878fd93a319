import ExecutionHandoff.Core.Invocation
import ExecutionHandoff.Library.Runs

/-!
# The owner of a hand-off

A hand-off is bound to the first claim that comes while it awaits the Human.
Afterwards it is handed out to whoever makes that claim again: the same
principal with the same invocation and the same strategy.
-/

namespace ExecutionHandoff.Core

open Library Library.JsString

inductive HandoffResumeStrategy where
  | retryOriginal
  | requireFreshSemanticAction
  deriving DecidableEq

structure HandoffOwner where
  principalBinding : JsString
  toolName : JsString
  argsDigest : JsString
  resumeStrategy : HandoffResumeStrategy
  deriving DecidableEq

variable (sha256 : List UInt8 → JsString)

def createHandoffOwner (principalBinding toolName : JsString) (args : JsonData)
    (resumeStrategy : HandoffResumeStrategy) : HandoffOwner :=
  { principalBinding, toolName, argsDigest := digestToolInvocation sha256 toolName args,
    resumeStrategy }

def handoffOwnerMatches (left right : HandoffOwner) : Bool :=
  left.principalBinding == right.principalBinding && left.toolName == right.toolName &&
    left.argsDigest == right.argsDigest && left.resumeStrategy == right.resumeStrategy

/-- The owner that is handed out, and the map of owners afterwards. -/
def claimHandoffOwner (owners : OrderedMap JsString HandoffOwner)
    (interventionId interventionStatus : JsString) (candidate : HandoffOwner) :
    Option HandoffOwner × OrderedMap JsString HandoffOwner :=
  match owners.get? interventionId with
  | some existing => (if handoffOwnerMatches existing candidate then some existing else none, owners)
  | none =>
      if interventionStatus = ascii "awaiting_human" then
        (some candidate, owners.set interventionId candidate)
      else
        (none, owners)

/-- The state that a request carries while the Human is asked. -/
structure HandoffRequestState where
  version : Int
  phase : JsString
  toolName : JsString
  argsDigest : JsString
  interventionId : JsString
  epoch : Int
  resumeStrategy : HandoffResumeStrategy
  principalBinding : JsString

def createHandoffRequestState (toolName : JsString) (args : JsonData) (interventionId : JsString)
    (epoch : Int) (resumeStrategy : HandoffResumeStrategy) (principalBinding : JsString) :
    HandoffRequestState :=
  { version := 2, phase := ascii "awaiting_human", toolName,
    argsDigest := digestToolInvocation sha256 toolName args, interventionId, epoch, resumeStrategy,
    principalBinding }

def handoffStateMatchesInvocation (state : HandoffRequestState) (toolName : JsString)
    (args : JsonData) (expectedPrincipalBinding : JsString) : Bool :=
  state.version == 2 && state.phase == ascii "awaiting_human" && state.toolName == toolName &&
    state.argsDigest == digestToolInvocation sha256 toolName args &&
    state.principalBinding == expectedPrincipalBinding

/-- A claim: whose, on which hand-off, for which invocation. -/
structure OwnershipClaim where
  interventionId : JsString
  interventionStatus : JsString
  principalBinding : JsString
  toolName : JsString
  args : JsonData
  resumeStrategy : HandoffResumeStrategy

namespace OwnershipClaim

def owner (claim : OwnershipClaim) : HandoffOwner :=
  createHandoffOwner sha256 claim.principalBinding claim.toolName claim.args claim.resumeStrategy

/-- The hand-off awaits the Human. -/
def Awaiting (claim : OwnershipClaim) : Prop :=
  claim.interventionStatus = ascii "awaiting_human"

/-- The same principal makes the same invocation with the same strategy. -/
def SameInvocation (claim claim' : OwnershipClaim) : Prop :=
  claim.principalBinding = claim'.principalBinding ∧ claim.toolName = claim'.toolName ∧
    claim.args.Same claim'.args ∧ claim.resumeStrategy = claim'.resumeStrategy

def digested (claim : OwnershipClaim) : List UInt8 := digestedBytes claim.toolName claim.args

end OwnershipClaim

/-- A claim with the answer to it. -/
abbrev ClaimCall := OwnershipClaim × Option HandoffOwner

def serveClaim (claim : OwnershipClaim) (owners : OrderedMap JsString HandoffOwner) :
    Option HandoffOwner × OrderedMap JsString HandoffOwner :=
  claimHandoffOwner owners claim.interventionId claim.interventionStatus (claim.owner sha256)

/-- The first accepted claim on a hand-off. -/
def boundClaim (interventionId : JsString) (calls : List ClaimCall) : Option OwnershipClaim :=
  (calls.find? fun call => call.1.interventionId == interventionId && call.2.isSome).map Prod.fst

/-- No two invocations of the run have one digest. -/
def CollisionFree (calls : List ClaimCall) : Prop :=
  ∀ call ∈ calls, ∀ call' ∈ calls, sha256 call.1.digested = sha256 call'.1.digested →
    call.1.digested = call'.1.digested

/-! ## Claims -/

variable {sha256}

theorem handoffOwnerMatches_iff {left right : HandoffOwner} :
    handoffOwnerMatches left right = true ↔ left = right := by
  unfold handoffOwnerMatches
  rw [Bool.and_eq_true, Bool.and_eq_true, Bool.and_eq_true, beq_iff_eq, beq_iff_eq, beq_iff_eq,
    beq_iff_eq]
  cases left
  cases right
  rw [HandoffOwner.mk.injEq, and_assoc, and_assoc]

/-- Without collisions the digests of one tool's invocations tell their arguments apart. -/
theorem digestToolInvocation_eq_iff {toolName toolName' : JsString} {args args' : JsonData}
    (names : toolName = toolName')
    (free : sha256 (digestedBytes toolName args) = sha256 (digestedBytes toolName' args') →
      digestedBytes toolName args = digestedBytes toolName' args') :
    digestToolInvocation sha256 toolName args = digestToolInvocation sha256 toolName' args' ↔
      args.Same args' := by
  constructor
  · intro same
    exact (digestedBytes_injective.mp (free same)).2
  · intro same
    exact congrArg sha256 (digestedBytes_injective.mpr ⟨congrArg characters names, same⟩)

/-- Without collisions the owner determines the invocation. -/
theorem owner_eq_iff {claim claim' : OwnershipClaim}
    (free : sha256 claim.digested = sha256 claim'.digested → claim.digested = claim'.digested) :
    claim.owner sha256 = claim'.owner sha256 ↔ claim.SameInvocation claim' := by
  unfold OwnershipClaim.owner createHandoffOwner OwnershipClaim.SameInvocation
  rw [HandoffOwner.mk.injEq]
  refine and_congr_right fun _ => and_congr_right fun names => and_congr_left fun _ => ?_
  exact digestToolInvocation_eq_iff names free

variable {owners : OrderedMap JsString HandoffOwner}

theorem claimHandoffOwner_bound {interventionId : JsString} {existing : HandoffOwner}
    (bound : owners.get? interventionId = some existing) (interventionStatus : JsString)
    (candidate : HandoffOwner) :
    claimHandoffOwner owners interventionId interventionStatus candidate =
      (if existing = candidate then some existing else none, owners) := by
  unfold claimHandoffOwner
  rw [bound]
  simp only [handoffOwnerMatches_iff]

theorem claimHandoffOwner_free
    {interventionId : JsString} (free : owners.get? interventionId = none)
    (interventionStatus : JsString) (candidate : HandoffOwner) :
    claimHandoffOwner owners interventionId interventionStatus candidate =
      if interventionStatus = ascii "awaiting_human" then
        (some candidate, owners.set interventionId candidate)
      else (none, owners) := by
  unfold claimHandoffOwner
  rw [free]

/-- What the map holds after the claims that have been made. -/
structure Bound (sha256 : List UInt8 → JsString) (past : List ClaimCall)
    (owners : OrderedMap JsString HandoffOwner) : Prop where
  owned : ∀ interventionId, owners.get? interventionId =
    (boundClaim interventionId past).map (OwnershipClaim.owner sha256)
  awaited : ∀ interventionId claim, boundClaim interventionId past = some claim → claim.Awaiting

theorem boundClaim_concat (interventionId : JsString) (past : List ClaimCall) (call : ClaimCall) :
    boundClaim interventionId (past ++ [call]) =
      (boundClaim interventionId past).or
        (if call.1.interventionId = interventionId ∧ call.2.isSome = true then
          some call.1 else none) := by
  unfold boundClaim
  rw [List.find?_append, Option.map_or, List.find?_singleton]
  simp only [Bool.and_eq_true, beq_iff_eq]
  split
  · rfl
  · rfl

/-- A claim that is refused binds nothing. -/
theorem Bound.refused {past : List ClaimCall}
    (bound : Bound sha256 past owners) {call : ClaimCall} (refused : call.2 = none) :
    Bound sha256 (past ++ [call]) owners := by
  have same (interventionId : JsString) :
      boundClaim interventionId (past ++ [call]) = boundClaim interventionId past := by
    rw [boundClaim_concat, refused, if_neg (fun no => by cases no.2), Option.or_none]
  exact ⟨fun interventionId => by rw [same]; exact bound.owned interventionId,
    fun interventionId claim here => bound.awaited interventionId claim (by rw [← same]; exact here)⟩

/-- A claim on a hand-off that is already bound binds nothing else. -/
theorem Bound.kept {past : List ClaimCall}
    (bound : Bound sha256 past owners) {call : ClaimCall} {first : OwnershipClaim}
    (before : boundClaim call.1.interventionId past = some first) :
    Bound sha256 (past ++ [call]) owners := by
  have same (interventionId : JsString) :
      boundClaim interventionId (past ++ [call]) = boundClaim interventionId past := by
    rw [boundClaim_concat]
    by_cases own : call.1.interventionId = interventionId
    · rw [← own, before]
      rfl
    · rw [if_neg (fun both => own both.1), Option.or_none]
  exact ⟨fun interventionId => by rw [same]; exact bound.owned interventionId,
    fun interventionId claim here => bound.awaited interventionId claim (by rw [← same]; exact here)⟩

/-- The first claim that comes while the hand-off awaits the Human binds it. -/
theorem Bound.bind {past : List ClaimCall} (bound : Bound sha256 past owners) {call : ClaimCall}
    (before : boundClaim call.1.interventionId past = none) (awaiting : call.1.Awaiting)
    (accepted : call.2 = some (call.1.owner sha256)) :
    Bound sha256 (past ++ [call])
      (owners.set call.1.interventionId (call.1.owner sha256)) := by
  have own : boundClaim call.1.interventionId (past ++ [call]) = some call.1 := by
    rw [boundClaim_concat, before, if_pos ⟨rfl, by rw [accepted]; rfl⟩]
    rfl
  have other {interventionId : JsString} (apart : interventionId ≠ call.1.interventionId) :
      boundClaim interventionId (past ++ [call]) = boundClaim interventionId past := by
    rw [boundClaim_concat, if_neg (fun both => apart both.1.symm), Option.or_none]
  constructor
  · intro interventionId
    rw [OrderedMap.get?_set]
    split
    · rename_i same
      rw [same, own]
      rfl
    · rename_i apart
      rw [other apart]
      exact bound.owned interventionId
  · intro interventionId claim here
    by_cases same : interventionId = call.1.interventionId
    · rw [same, own] at here
      cases here
      exact awaiting
    · rw [other same] at here
      exact bound.awaited interventionId claim here

theorem bound_step {past : List ClaimCall} {call : ClaimCall}
    {owners' : OrderedMap JsString HandoffOwner} (step : CallStep (serveClaim sha256) owners call owners')
    (bound : Bound sha256 past owners) : Bound sha256 (past ++ [call]) owners' := by
  have owned := bound.owned call.1.interventionId
  unfold CallStep serveClaim at step
  cases before : boundClaim call.1.interventionId past with
  | some first =>
      rw [before] at owned
      rw [claimHandoffOwner_bound owned] at step
      cases (Prod.mk.inj step).2
      exact bound.kept before
  | none =>
      rw [before] at owned
      rw [claimHandoffOwner_free owned] at step
      split at step
      · rename_i awaiting
        obtain ⟨accepted, rfl⟩ := Prod.mk.inj step
        exact bound.bind before awaiting accepted.symm
      · obtain ⟨refused, rfl⟩ := Prod.mk.inj step
        exact bound.refused refused.symm

/-- The answer to a claim, given what has been claimed before. -/
theorem claim_answered {past : List ClaimCall} {call : ClaimCall}
    {owners' : OrderedMap JsString HandoffOwner} (step : CallStep (serveClaim sha256) owners call owners')
    (bound : Bound sha256 past owners) :
    (boundClaim call.1.interventionId past = none →
      (call.2.isSome = true ↔ call.1.Awaiting)) ∧
    ∀ first, boundClaim call.1.interventionId past = some first →
      first.Awaiting ∧
        (call.2.isSome = true ↔ first.owner sha256 = call.1.owner sha256) := by
  have owned := bound.owned call.1.interventionId
  unfold CallStep serveClaim at step
  constructor
  · intro before
    rw [before] at owned
    rw [claimHandoffOwner_free owned] at step
    split at step
    · rename_i awaiting
      rw [← (Prod.mk.inj step).1]
      exact ⟨fun _ => awaiting, fun _ => rfl⟩
    · rename_i busy
      rw [← (Prod.mk.inj step).1]
      exact ⟨(fun no => by cases no), fun awaiting => absurd awaiting busy⟩
  · intro first before
    refine ⟨bound.awaited _ first before, ?_⟩
    rw [before] at owned
    rw [claimHandoffOwner_bound owned] at step
    rw [← (Prod.mk.inj step).1]
    split
    · rename_i same
      exact ⟨fun _ => same, fun _ => rfl⟩
    · rename_i differs
      exact ⟨(fun no => by cases no), fun same => absurd same differs⟩

/-- The canonical text and the digested text tell invocations apart, and a hand-off belongs to the
invocation that first claimed it while it awaited the Human. -/
theorem run_claims_owned :
    (∀ left right : JsonData,
      canonicalJson left.value = canonicalJson right.value ↔ left.Same right) ∧
    (∀ (toolName toolName' : JsString) (args args' : JsonData),
      digestedText toolName args = digestedText toolName' args' ↔
        toolName = toolName' ∧ args.Same args') ∧
    (∀ (toolName toolName' : JsString) (args args' : JsonData),
      digestedBytes toolName args = digestedBytes toolName' args' ↔
        characters toolName = characters toolName' ∧ args.Same args') ∧
    ∀ (sha256 : List UInt8 → JsString) (calls : List ClaimCall)
      (owners : OrderedMap JsString HandoffOwner),
      Run (CallStep (serveClaim sha256)) .empty calls owners → CollisionFree sha256 calls →
      ∀ (before after : List ClaimCall) (call : ClaimCall), calls = before ++ call :: after →
        (boundClaim call.1.interventionId before = none →
          (call.2.isSome = true ↔ call.1.Awaiting)) ∧
        ∀ first, boundClaim call.1.interventionId before = some first →
          first.Awaiting ∧ (call.2.isSome = true ↔ first.SameInvocation call.1) := by
  refine ⟨fun _ _ => canonicalJson_injective, fun _ _ _ _ => digestedText_injective,
    fun _ _ _ _ => digestedBytes_injective, ?_⟩
  rintro sha256 calls owners run free before after call rfl
  obtain ⟨middle, past, rest⟩ := run.split
  cases rest with
  | step head tail =>
      have start : Bound sha256 [] .empty := ⟨fun _ => rfl, fun _ _ no => by cases no⟩
      have bound := past.history (fun step bound => bound_step step bound) start
      obtain ⟨unowned, owned⟩ := claim_answered head bound
      refine ⟨unowned, fun first here => ?_⟩
      obtain ⟨awaiting, answered⟩ := owned first here
      refine ⟨awaiting, answered.trans (owner_eq_iff ?_)⟩
      obtain ⟨call', found, rfl⟩ := Option.map_eq_some_iff.mp here
      exact free call' (List.mem_append_left _ (List.mem_of_find?_eq_some found)) call
        (List.mem_append_right _ (.head _))

/-- Strings under two keys. -/
def sampleArguments (key key' : JsString) (apart : key ≠ key') (left right : JsString) : JsonData where
  value := .object [(key, .string left), (key', .string right)]
  distinct := by
    refine .object _ ?_ fun field mem => ?_
    · exact List.nodup_cons.mpr ⟨fun mem => apart (List.mem_singleton.mp mem), List.nodup_singleton _⟩
    · rcases List.mem_cons.mp mem with rfl | mem
      · exact .string _
      · rw [List.mem_singleton.mp mem]
        exact .string _

def sampleClaim (interventionStatus : String) (args : JsonData) : OwnershipClaim where
  interventionId := ascii "i1"
  interventionStatus := ascii interventionStatus
  principalBinding := ascii "principal-a"
  toolName := ascii "navigate"
  args
  resumeStrategy := .retryOriginal

/-- A claim that comes too early, the one that binds, one with its keys in another order and one with
another argument. -/
def sampleClaims : List OwnershipClaim :=
  [sampleClaim "human_active" (sampleArguments [98] [97] (by decide) (ascii "x") (ascii "y")),
    sampleClaim "awaiting_human" (sampleArguments [98] [97] (by decide) (ascii "x") (ascii "y")),
    sampleClaim "human_active" (sampleArguments [97] [98] (by decide) (ascii "y") (ascii "x")),
    sampleClaim "human_active" (sampleArguments [97] [98] (by decide) (ascii "y") (ascii "y"))]

/-- The digests of the two invocations of the sample. -/
def sampleSha256 (message : List UInt8) : JsString :=
  if message = utf8 (ascii "navigate" ++ 0 :: ascii "\x7b\"a\":\"y\",\"b\":\"x\"\x7d") then
    ascii "5cbae5366515f8039d6b4b7a1d35e9cdb2b2b93c3b73b5044e73eaf42bfa9fd0"
  else if message = utf8 (ascii "navigate" ++ 0 :: ascii "\x7b\"a\":\"y\",\"b\":\"y\"\x7d") then
    ascii "e802d5a1baffed9adefcb164f30e67eff323ff9d76383ac9bf3ebcada1c08591"
  else []

def sampleClaimCalls : List ClaimCall :=
  (replayCalls (serveClaim sampleSha256) .empty sampleClaims).1

theorem sampleClaims_owned :
    sampleClaimCalls.map (fun call => call.2.isSome) = [false, true, true, false] ∧
      ∀ (before after : List ClaimCall) (call : ClaimCall),
        sampleClaimCalls = before ++ call :: after →
        (boundClaim call.1.interventionId before = none →
          (call.2.isSome = true ↔ call.1.Awaiting)) ∧
        ∀ first, boundClaim call.1.interventionId before = some first →
          first.Awaiting ∧ (call.2.isSome = true ↔ first.SameInvocation call.1) := by
  have free : CollisionFree sampleSha256 sampleClaimCalls := by
    unfold CollisionFree
    decide +kernel
  exact ⟨by decide +kernel, run_claims_owned.2.2.2 sampleSha256 sampleClaimCalls _
    (replayCalls_run (serveClaim sampleSha256) .empty sampleClaims) free⟩

end ExecutionHandoff.Core
