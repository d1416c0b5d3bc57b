import Mathlib.Algebra.BigOperators.Group.List.Basic
import Mathlib.Algebra.Order.Ring.Defs
import Mathlib.Order.Interval.Set.Defs
import Mathlib.Tactic.Linarith

namespace OpenStock.Blend

/- Sums of weighted values in the unit interval, and clamping into it. -/

section
variable [CommRing α] [LinearOrder α] [IsStrictOrderedRing α]

def blend (parts : List (α × α)) : α := (parts.map (fun part => part.1 * part.2)).sum

structure Shares (weights : List α) : Prop where
  nonneg : ∀ weight ∈ weights, 0 ≤ weight
  total : weights.sum ≤ 1

instance (weights : List α) : Decidable (Shares weights) :=
  decidable_of_iff ((∀ weight ∈ weights, 0 ≤ weight) ∧ weights.sum ≤ 1)
    ⟨fun both => ⟨both.1,both.2⟩,fun shares => ⟨shares.nonneg,shares.total⟩⟩

variable {parts : List (α × α)}

-- A blend lies between nothing and the sum of its weights.
theorem blend_bounded (nonneg : ∀ part ∈ parts, 0 ≤ part.1)
    (inside : ∀ part ∈ parts, part.2 ∈ Set.Icc 0 1) : 0 ≤ blend parts ∧ blend parts ≤ (parts.map Prod.fst).sum := by
  induction parts with
  | nil => simp [blend]
  | cons part parts ih =>
    have weight := nonneg part List.mem_cons_self
    obtain ⟨low,high⟩ := inside part List.mem_cons_self
    obtain ⟨lower,upper⟩ := ih (fun other later => nonneg other (List.mem_cons_of_mem _ later))
      (fun other later => inside other (List.mem_cons_of_mem _ later))
    have least : 0 ≤ part.1 * part.2 := mul_nonneg weight low
    have most : part.1 * part.2 ≤ part.1 := mul_le_of_le_one_right weight high
    unfold blend at lower upper ⊢
    simp only [List.map_cons,List.sum_cons]
    exact ⟨by linarith,by linarith⟩

theorem blend_unit (shares : Shares (parts.map Prod.fst))
    (inside : ∀ part ∈ parts, part.2 ∈ Set.Icc 0 1) : blend parts ∈ Set.Icc 0 1 := by
  obtain ⟨low,high⟩ := blend_bounded (fun part present => shares.nonneg _ (List.mem_map_of_mem present)) inside
  exact ⟨low,high.trans shares.total⟩

-- The same weights over values that are no smaller.
def Grows (earlier later : α × α) : Prop := earlier.1 = later.1 ∧ 0 ≤ earlier.1 ∧ earlier.2 ≤ later.2

theorem blend_mono {first second : List (α × α)} (grown : List.Forall₂ Grows first second) : blend first ≤ blend second := by
  induction grown with
  | nil => exact le_rfl
  | cons grows _ ih =>
    obtain ⟨same,nonneg,ordered⟩ := grows
    unfold blend at ih ⊢
    simp only [List.map_cons,List.sum_cons]
    rw [← same]
    exact add_le_add (mul_le_mul_of_nonneg_left ordered nonneg) ih

def clamp (value : α) : α := min 1 (max 0 value)

theorem clamp_unit (value : α) : clamp value ∈ Set.Icc 0 1 :=
  ⟨le_min zero_le_one (le_max_left _ _),min_le_left _ _⟩

omit [IsStrictOrderedRing α] in
theorem clamp_mono {first second : α} (ordered : first ≤ second) : clamp first ≤ clamp second :=
  min_le_min_left _ (max_le_max_left _ ordered)

end
end OpenStock.Blend
