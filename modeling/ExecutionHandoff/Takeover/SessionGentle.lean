import ExecutionHandoff.Takeover.SessionCompletion

/-!
# Calls that mint no session

Every call of the manager other than `ensure` leaves each record a descendant of
one that was there before.  So a session that completion has made the last of
its intervention and epoch stays the last one until something mints.
-/

namespace ExecutionHandoff.Takeover

open Library

namespace TakeoverSessionManager

variable {config : TakeoverSessionConfig} {first last : TakeoverSessionManager}

/-- What calls other than `ensure` and `complete` do. -/
inductive Gentle (config : TakeoverSessionConfig) :
    TakeoverSessionManager → TakeoverSessionManager → Prop where
  | touches {first last : TakeoverSessionManager} {rebinds : Bool}
      (touches : Touches config rebinds first last) : Gentle config first last
  | sweeps (manager : TakeoverSessionManager) : Gentle config manager (swept config manager)
  | revokesIntervention (manager : TakeoverSessionManager) (interventionId : String) :
      Gentle config manager (manager.interventionRevoked interventionId)
  | revokesRecord (manager : TakeoverSessionManager) (id : String) :
      Gentle config manager (manager.recordRevoked id)
  | verifies {manager : TakeoverSessionManager} {time : Int} (read : JustRead config manager time)
      (interventionId : String) (epoch : Int) :
      Gentle config manager (manager.verifiedCompletion config time interventionId epoch)
  | trans {first middle last : TakeoverSessionManager} (left : Gentle config first middle)
      (right : Gentle config middle last) : Gentle config first last

theorem Gentle.refl (manager : TakeoverSessionManager) : Gentle config manager manager :=
  .touches (Touches.refl false manager)

theorem recordRevoked_evolves (manager : TakeoverSessionManager) (id : String) :
    Evolves config manager (manager.recordRevoked id) := by
  unfold recordRevoked
  split
  · exact .refl manager
  · rename_i record stored
    exact (Evolves.refl manager).write stored .revoke

theorem Gentle.evolves (gentle : Gentle config first last) : Evolves config first last := by
  induction gentle with
  | touches touches => exact touches.evolves
  | sweeps manager => exact swept_evolves manager
  | revokesIntervention manager interventionId =>
      exact (Elementary.revokeIntervention manager interventionId).evolves
  | revokesRecord manager id => exact recordRevoked_evolves manager id
  | verifies read interventionId epoch => exact (Elementary.verified read).evolves
  | trans _ _ left right => exact left.trans right

theorem Gentle.kept (gentle : Gentle config first last) (inv : Invariant config first) :
    Kept first last := by
  induction gentle with
  | touches touches => exact touches.kept inv
  | sweeps manager => exact swept_kept manager
  | revokesIntervention manager interventionId =>
      exact interventionRevoked_kept manager interventionId
  | revokesRecord manager id => exact recordRevoked_kept manager id
  | verifies read interventionId epoch => exact verifiedCompletion_kept _ _ interventionId epoch
  | trans before _ left right =>
      exact (left inv).trans (right (before.evolves.invariant_progress inv).1)

theorem Gentle.completionAlone (gentle : Gentle config first last) (inv : Invariant config first)
    (dated : AllDated config first) (alone : CompletionAlone config first) :
    CompletionAlone config last := by
  induction gentle with
  | touches touches => exact alone.touches touches inv
  | sweeps manager => exact alone.swept
  | revokesIntervention manager interventionId => exact alone.interventionRevoked interventionId
  | revokesRecord manager id => exact alone.recordRevoked id
  | verifies read interventionId epoch => exact alone.verifiedCompletion inv dated read
  | trans before _ left right =>
      have evolves := before.evolves
      exact right (evolves.invariant_progress inv).1 (evolves.dated dated) (left inv dated alone)

theorem Completion.evolves {manager after : TakeoverSessionManager} {id principalBinding : String}
    {result : Except TakeoverSessionError TakeoverCompletionResult}
    (completion : Completion config manager id principalBinding result after) :
    Evolves config manager after := by
  cases completion with
  | refused _ wait => exact wait.evolves
  | accepted record stored _ _ wait kept =>
      apply wait.evolves.write
      · rw [kept]
        exact stored
      · exact .complete

/-- The session whose completion was accepted is withdrawn. -/
theorem Completion.withdrawn {manager after : TakeoverSessionManager} {id principalBinding : String}
    {completion : TakeoverCompletionResult}
    (outcome : Completion config manager id principalBinding (.ok completion) after)
    (inv : Invariant config after) : Withdrawn config id after := by
  cases outcome with
  | accepted record stored _ _ _ _ =>
      apply settled_of_stored inv
      · exact OrderedMap.get?_set_self _ _ _
      · rfl

end TakeoverSessionManager

end ExecutionHandoff.Takeover
