import Mathlib.Algebra.Order.Floor.Ring
import Mathlib.Data.Rat.Floor
import Mathlib.Tactic.FieldSimp
import Mathlib.Tactic.Linarith
import Mathlib.Tactic.Positivity

namespace OpenStock.HalfEven

/- Rounding to the nearest integer, halves to the even one, and rounding to a grid
of decimals. -/

section
variable [Field α] [LinearOrder α] [IsStrictOrderedRing α] [FloorRing α]

def nearest (value : α) : ℤ :=
  if 2 * Int.fract value < 1 then ⌊value⌋
  else if 1 < 2 * Int.fract value then ⌊value⌋ + 1
  else if Even ⌊value⌋ then ⌊value⌋ else ⌊value⌋ + 1

variable {value : α}

-- A number is reached from half a unit below it, from the half itself when it is even.
theorem le_nearest : bound ≤ nearest value ↔ 2 * bound - 1 < 2 * value ∨ Even bound ∧ 2 * bound - 1 = 2 * value := by
  have split := Int.floor_add_fract value
  have low := Int.fract_nonneg value
  have high := Int.fract_lt_one value
  unfold nearest
  rcases lt_trichotomy (bound : ℤ) (⌊value⌋ + 1) with below | rfl | above
  · have under : bound ≤ ⌊value⌋ := by omega
    have cast : (bound : α) ≤ ⌊value⌋ := by exact_mod_cast under
    refine ⟨fun _ => Or.inl (by linarith),fun _ => ?_⟩
    split_ifs <;> omega
  · push_cast
    split_ifs with less more even
    · refine ⟨fun wrong => absurd wrong (by omega),?_⟩
      rintro (strict | ⟨_,tie⟩) <;> linarith
    · exact ⟨fun _ => Or.inl (by linarith),fun _ => le_rfl⟩
    · refine ⟨fun wrong => absurd wrong (by omega),?_⟩
      rintro (strict | ⟨other,_⟩)
      · linarith
      · exact absurd even (by simpa [parity_simps] using other)
    · have tie : 2 * Int.fract value = 1 := le_antisymm (not_lt.mp more) (not_lt.mp less)
      refine ⟨fun _ => Or.inr ⟨?_,by linarith⟩,fun _ => le_rfl⟩
      simpa [parity_simps] using even
  · have beyond : ⌊value⌋ + 2 ≤ bound := by omega
    have cast : (⌊value⌋ : α) + 2 ≤ bound := by exact_mod_cast beyond
    constructor
    · intro reached
      split_ifs at reached <;> omega
    · rintro (strict | ⟨_,tie⟩) <;> linarith

variable {first second : α}

theorem nearest_mono (ordered : first ≤ second) : nearest first ≤ nearest second := by
  have reached := le_nearest.mp (le_refl (nearest first))
  apply le_nearest.mpr
  rcases reached with strict | ⟨even,tie⟩
  · exact Or.inl (by linarith)
  · rcases ordered.eq_or_lt with rfl | less
    · exact Or.inr ⟨even,tie⟩
    · exact Or.inl (by linarith)

/- `round(value, digits)`. -/

def roundTo (digits : Nat) (value : α) : α := nearest (value * 10 ^ digits) / 10 ^ digits

theorem roundTo_mono (digits : Nat) (ordered : first ≤ second) : roundTo digits first ≤ roundTo digits second := by
  unfold roundTo
  have scaled : first * 10 ^ digits ≤ second * 10 ^ digits := by gcongr
  have kept : (nearest (first * 10 ^ digits) : α) ≤ nearest (second * 10 ^ digits) := by exact_mod_cast nearest_mono scaled
  gcongr

variable {mark : ℤ} {digits : Nat}

-- An even mark of the grid is reached from half a step below it.
theorem even_mark_le_roundTo (even : Even mark) :
    (mark : α) / 10 ^ digits ≤ roundTo digits value ↔ (mark : α) / 10 ^ digits - 1 / (2 * 10 ^ digits) ≤ value := by
  have scale : (0 : α) < 10 ^ digits := by positivity
  have reached : (mark : α) / 10 ^ digits ≤ roundTo digits value ↔ mark ≤ nearest (value * 10 ^ digits) := by
    unfold roundTo
    rw [div_le_div_iff_of_pos_right scale]
    exact_mod_cast Iff.rfl
  rw [reached,le_nearest]
  have step : (mark : α) / 10 ^ digits - 1 / (2 * 10 ^ digits) ≤ value ↔ 2 * (mark : α) - 1 ≤ 2 * (value * 10 ^ digits) := by
    have shape : (mark : α) / 10 ^ digits - 1 / (2 * 10 ^ digits) = (2 * mark - 1) / (2 * 10 ^ digits) := by field_simp
    rw [shape,div_le_iff₀ (by positivity)]
    ring_nf
  rw [step,le_iff_lt_or_eq]
  simp [even]

theorem even_mark_lt_roundTo (even : Even mark) :
    (mark : α) / 10 ^ digits < roundTo digits value ↔ (mark : α) / 10 ^ digits + 1 / (2 * 10 ^ digits) < value := by
  have scale : (0 : α) < 10 ^ digits := by positivity
  have odd : ¬ Even (mark + 1) := by simpa [parity_simps] using even
  have reached : (mark : α) / 10 ^ digits < roundTo digits value ↔ mark + 1 ≤ nearest (value * 10 ^ digits) := by
    unfold roundTo
    rw [div_lt_div_iff_of_pos_right scale]
    exact_mod_cast Iff.rfl
  have step : (mark : α) / 10 ^ digits + 1 / (2 * 10 ^ digits) < value ↔ 2 * (mark : α) + 1 < 2 * (value * 10 ^ digits) := by
    have shape : (mark : α) / 10 ^ digits + 1 / (2 * 10 ^ digits) = (2 * mark + 1) / (2 * 10 ^ digits) := by field_simp
    rw [shape,div_lt_iff₀ (by positivity)]
    ring_nf
  rw [reached,le_nearest,step]
  simp only [odd,false_and,or_false]
  push_cast
  ring_nf

theorem roundTo_even_mark (even : Even mark) (digits : Nat) :
    roundTo digits ((mark : α) / 10 ^ digits) = (mark : α) / 10 ^ digits := by
  have half : (0 : α) < 1 / (2 * 10 ^ digits) := by positivity
  apply le_antisymm
  · apply not_lt.mp
    rw [even_mark_lt_roundTo even]
    linarith
  · rw [even_mark_le_roundTo even]
    linarith

end
end OpenStock.HalfEven
