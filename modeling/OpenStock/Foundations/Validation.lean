import Mathlib.Data.List.Basic

namespace OpenStock

-- A field validator that normalizes: what it returns it accepts unchanged.
structure Normalizer (α : Type u) where
  run : α → Except String α
  settled : ∀ {raw value}, run raw = .ok value → run value = .ok value

namespace Normalizer

-- The values a validated field can hold, each with the validator's own verdict.
abbrev Admitted (field : Normalizer α) : Type u := {value : α // field.run value = .ok value}

def validate (field : Normalizer α) (raw : α) : Except String field.Admitted :=
  match checked : field.run raw with
  | .error message => .error message
  | .ok value => .ok ⟨value,field.settled checked⟩

theorem validate_admitted (field : Normalizer α) (value : field.Admitted) : field.validate value.val = .ok value := by
  unfold validate
  split
  · rename_i message refused
    rw [value.property] at refused
    cases refused
  · rename_i again accepted
    rw [value.property] at accepted
    cases accepted
    rfl

end Normalizer

-- A sequence of fallible steps returns what its last step returns.
theorem bind_ok {x : Except ε α} {f : α → Except ε β} (ran : (x >>= f) = .ok value) :
    ∃ middle, x = .ok middle ∧ f middle = .ok value := by
  cases x with
  | error refused => cases ran
  | ok middle => exact ⟨middle,rfl,ran⟩

-- A fold of fallible steps, with an invariant of the part that has been folded.
theorem foldlM_done {step : β → α → Except ε β} {good : List α → β → Prop} {start final : β} {items : List α}
    (initial : good [] start)
    (kept : ∀ done state item next, good done state → step state item = .ok next → good (done ++ [item]) next)
    (ran : items.foldlM step start = .ok final) : good items final := by
  have from_ : ∀ (rest : List α) (done : List α) (state : β), good done state → rest.foldlM step state = .ok final →
      good (done ++ rest) final := by
    intro rest
    induction rest with
    | nil =>
      intro done state held ran
      cases ran
      rw [List.append_nil]
      exact held
    | cons item rest ih =>
      intro done state held ran
      rw [List.foldlM_cons] at ran
      obtain ⟨next,first,ran⟩ := bind_ok ran
      rw [List.append_cons]
      exact ih _ next (kept done state item next held first) ran
  exact from_ items [] start initial ran

end OpenStock
