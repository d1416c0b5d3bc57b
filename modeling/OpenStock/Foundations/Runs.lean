import Mathlib.Data.List.Basic

namespace OpenStock

-- Finite runs of a labelled step relation, the latest event first. A step may
-- look at the history that led to it.
inductive Runs (step : List ε → σ → ε → σ → Prop) (start : σ) : List ε → σ → Prop where
  | nil : Runs step start [] start
  | step (path : Runs step start history before) (ran : step history before event after) :
      Runs step start (event :: history) after

namespace Runs
variable {step weaker : List ε → σ → ε → σ → Prop} {start : σ}

-- Initially and preserved: then everywhere.
theorem invariant {holds : List ε → σ → Prop} (initial : holds [] start)
    (preserved : ∀ {history before event after}, Runs step start history before → holds history before →
      step history before event after → holds (event :: history) after)
    (path : Runs step start history state) : holds history state := by
  induction path with
  | nil => exact initial
  | step path ran ih => exact preserved path ih ran

theorem mono (included : ∀ {history before event after}, step history before event after →
      weaker history before event after) (path : Runs step start history state) : Runs weaker start history state := by
  induction path with
  | nil => exact .nil
  | step _ ran ih => exact .step ih (included ran)

-- A run passes through a state for each part of its history, and a relation that
-- every step keeps relates that state to the last one.
theorem related (relates : σ → σ → Prop) (reflexive : ∀ state, relates state state)
    (transitive : ∀ {first second third}, relates first second → relates second third → relates first third)
    (steps : ∀ {history before event after}, Runs step start history before → step history before event after →
      relates before after)
    (path : Runs step start (later ++ history) final) : ∃ middle, Runs step start history middle ∧ relates middle final := by
  induction later generalizing final with
  | nil => exact ⟨final,path,reflexive final⟩
  | cons event later ih =>
    cases path with
    | step earlier ran =>
      obtain ⟨middle,reached,related⟩ := ih earlier
      exact ⟨middle,reached,transitive related (steps earlier ran)⟩

theorem unique (first : Runs step start history left)
    (functional : ∀ {history before event left right}, step history before event left →
      step history before event right → left = right) (second : Runs step start history right) : left = right := by
  induction first generalizing right with
  | nil =>
    cases second
    rfl
  | step _ ran ih =>
    cases second with
    | step path again =>
      cases ih path
      exact functional ran again

-- Executing a list of events, oldest first.
def execute (advance : List ε → σ → ε → Option σ) (history : List ε) (state : σ) : List ε → Option σ
  | [] => some state
  | event :: rest => (advance history state event).bind (fun next => execute advance (event :: history) next rest)

theorem executed
    (sound : ∀ {history before event after}, advance history before event = some after → step history before event after)
    (path : Runs step start history state) (ran : execute advance history state events = some final) :
    Runs step start (events.reverse ++ history) final := by
  induction events generalizing state history with
  | nil =>
    cases ran
    exact path
  | cons event events ih =>
    cases advanced : advance history state event with
    | none => simp [execute,advanced] at ran
    | some next =>
      have later : execute advance (event :: history) next events = some final := by
        simpa [execute,advanced] using ran
      simpa using ih (.step path (sound advanced)) later

end Runs
end OpenStock
