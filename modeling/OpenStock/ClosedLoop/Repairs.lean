import Mathlib.Data.List.Basic
import OpenStock.Foundations.Rows

namespace OpenStock.ClosedLoop

inductive LifecycleState where
  | run
  | observe
  | package
  | aiFix
  | validate
  | promoteReady
  | promoted
  | rejected
  | rolledBack
  | failed
deriving DecidableEq

structure RepairAttempt where
  attempt : Nat
  passed : Bool

-- A bundle directory: whether repair-proposal.json is accepted, the attempt
-- files, the states of lifecycle.jsonl.
structure Repair where
  proposal : Option Bool
  attempts : List RepairAttempt
  lifecycle : List LifecycleState

def Repair.record (repair : Repair) (state : LifecycleState) : Repair :=
  {repair with lifecycle:=repair.lifecycle ++ [state]}

def Repair.current (repair : Repair) : Option LifecycleState := repair.lifecycle.getLast?

def Repair.saveAttempt (repair : Repair) (attempt : RepairAttempt) : Repair :=
  {repair with attempts:=Rows.upsert RepairAttempt.attempt repair.attempts attempt}

inductive RepairError where
  | notFound
  | rejectedProposal
  | notPositive
  | exhausted
  | terminal (state : LifecycleState)
  | notSequential (expected : Nat)
  | notSandbox
  | raised

-- What `runner.run` does. An exception that is no `Exception`, and a result
-- whose texts outgrow the attempt record when redacted, leave no record.
inductive RunnerResult where
  | returned (passed : Bool)
  | invalid
  | raised
  | aborted

structure Runner where
  isSandbox : Bool
  result : RunnerResult

def RunnerResult.recorded : RunnerResult → Option Bool
  | .returned passed => some passed
  | .invalid => some false
  | .raised => some false
  | .aborted => none

structure ClosedLoopService where
  maxAttempts : Nat
  bounded : 1 ≤ maxAttempts ∧ maxAttempts ≤ 10

def isTerminal (state : LifecycleState) : Bool :=
  state ∈ [LifecycleState.failed,.rejected,.validate,.promoteReady,.promoted,.rolledBack]

-- What a call leaves, what it returns or raises, and whether the sandbox ran.
structure Applied where
  repair : Repair
  outcome : Except RepairError RepairAttempt
  ran : Bool

namespace ClosedLoopService

def prepareFailedRun : Repair := ⟨none,[],[.run,.observe,.package]⟩

-- `accepted` is the verdict of `allowed_proposal_text` on the proposed texts.
def propose (repair : Repair) (accepted : Bool) : Repair :=
  {repair with proposal:=some accepted}.record (if accepted then .aiFix else .rejected)

def runAttempt (service : ClosedLoopService) (repair : Repair) (attempt : Nat) (result : RunnerResult) : Applied :=
  let started := repair.record .aiFix
  match result.recorded with
  | none => ⟨started,.error .raised,true⟩
  | some passed =>
    let saved := started.saveAttempt ⟨attempt,passed⟩
    let next := if passed then .validate else if service.maxAttempts ≤ attempt then .failed else .aiFix
    ⟨saved.record next,.ok ⟨attempt,passed⟩,true⟩

def apply (service : ClosedLoopService) (repair : Repair) (attempt : Int) (runner : Runner) : Applied :=
  match repair.proposal with
  | none => ⟨repair,.error .notFound,false⟩
  | some false => ⟨repair,.error .rejectedProposal,false⟩
  | some true =>
    if attempt < 1 then ⟨repair,.error .notPositive,false⟩
    else if service.maxAttempts < attempt then ⟨repair.record .failed,.error .exhausted,false⟩
    else match repair.current with
    | none => ⟨repair,.error .notFound,false⟩
    | some state =>
      let expected := repair.attempts.length + 1
      if isTerminal state then ⟨repair,.error (.terminal state),false⟩
      else if attempt ≠ expected then ⟨repair,.error (.notSequential expected),false⟩
      else if !runner.isSandbox then ⟨repair,.error .notSandbox,false⟩
      else service.runAttempt repair attempt.toNat runner.result

end ClosedLoopService

/- Calls on a store. A repair is named by its number in the order of preparation;
the source draws a uuid for each. -/

inductive Call where
  | prepare
  | propose (repairId : Nat) (accepted : Bool)
  | apply (repairId : Nat) (attempt : Int) (runner : Runner)

abbrev Store := List Repair

-- The store after a call, and the repair whose sandbox ran in it.
def step (service : ClosedLoopService) (store : Store) : Call → Store × Option Nat
  | .prepare => (store ++ [ClosedLoopService.prepareFailedRun],none)
  | .propose repairId accepted =>
    match store[repairId]? with
    | none => (store,none)
    | some repair => (store.set repairId (ClosedLoopService.propose repair accepted),none)
  | .apply repairId attempt runner =>
    match store[repairId]? with
    | none => (store,none)
    | some repair =>
      let applied := service.apply repair attempt runner
      (store.set repairId applied.repair,if applied.ran then some repairId else none)

/- What each operation does to the current state. -/

@[simp] theorem record_current (repair : Repair) (state : LifecycleState) : (repair.record state).current = some state := by
  simp [Repair.record,Repair.current]

@[simp] theorem record_attempts (repair : Repair) (state : LifecycleState) : (repair.record state).attempts = repair.attempts := rfl

@[simp] theorem propose_current (repair : Repair) (accepted : Bool) :
    (ClosedLoopService.propose repair accepted).current = some (if accepted then .aiFix else .rejected) := by
  simp [ClosedLoopService.propose]

-- The states a repair is to stay in.
def Ended (repair : Repair) : Prop :=
  repair.current = some .rejected ∨ repair.current = some .validate ∨ repair.current = some .failed

theorem ended_terminal (ended : Ended repair) : ∃ state, repair.current = some state ∧ isTerminal state = true := by
  rcases ended with rejected | validated | failed
  · exact ⟨_,rejected,rfl⟩
  · exact ⟨_,validated,rfl⟩
  · exact ⟨_,failed,rfl⟩

inductive AppliedAs (service : ClosedLoopService) (repair : Repair) (attempt : Int) (runner : Runner) : Applied → Prop where
  | refused (error : RepairError) : AppliedAs service repair attempt runner ⟨repair,.error error,false⟩
  | exhausted (accepted : repair.proposal = some true) (many : service.maxAttempts < attempt) :
      AppliedAs service repair attempt runner ⟨repair.record .failed,.error .exhausted,false⟩
  | ran (number : Nat) (same : attempt = number) (bounded : number ≤ service.maxAttempts)
      (next : number = repair.attempts.length + 1) (state : LifecycleState) (current : repair.current = some state)
      (open' : isTerminal state = false) :
      AppliedAs service repair attempt runner (service.runAttempt repair number runner.result)

theorem apply_cases (service : ClosedLoopService) (repair : Repair) (attempt : Int) (runner : Runner) :
    AppliedAs service repair attempt runner (service.apply repair attempt runner) := by
  unfold ClosedLoopService.apply
  cases proposal : repair.proposal with
  | none => exact .refused _
  | some accepted =>
    cases accepted with
    | false => exact .refused _
    | true =>
      dsimp only
      by_cases positive : attempt < 1
      · rw [if_pos positive]
        exact .refused _
      · rw [if_neg positive]
        by_cases many : (service.maxAttempts : Int) < attempt
        · rw [if_pos many]
          exact .exhausted proposal many
        · rw [if_neg many]
          cases current : repair.current with
          | none => exact .refused _
          | some state =>
            dsimp only
            cases terminal : isTerminal state with
            | true => exact .refused _
            | false =>
              by_cases next : attempt ≠ (repair.attempts.length + 1 : Nat)
              · rw [if_neg (by decide),if_pos next]
                exact .refused _
              · rw [if_neg (by decide),if_neg next]
                have same : attempt = (repair.attempts.length + 1 : Nat) := by omega
                split
                · exact .refused _
                · exact .ran attempt.toNat (by omega) (by omega) (by omega) state current terminal

end OpenStock.ClosedLoop
