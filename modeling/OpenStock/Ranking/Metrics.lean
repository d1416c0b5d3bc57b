import Mathlib.Algebra.BigOperators.Group.List.Basic
import Mathlib.Algebra.Order.Field.Rat
import Mathlib.Data.List.Sort
import Mathlib.Data.Prod.Lex
import OpenStock.Foundations.Text

namespace OpenStock.Ranking

/- `ranking_evaluation/metrics.py` over exact numbers. -/

def sortBy [LinearOrder κ] (key : ρ → κ) (rows : List ρ) : List ρ := rows.insertionSort (fun left right => key left ≤ key right)

theorem perm_sortBy [LinearOrder κ] (key : ρ → κ) (rows : List ρ) : (sortBy key rows).Perm rows :=
  List.perm_insertionSort _ _

-- Rows of one shape, in any order, are sorted into one list of shapes by a key
-- of the shape that no two rows share.
theorem sortBy_alike [LinearOrder κ] (shape : ρ → σ) (key : σ → κ)
    (perm : (left.map shape).Perm (right.map shape)) (distinct : (left.map (key ∘ shape)).Nodup) :
    (sortBy (key ∘ shape) left).map shape = (sortBy (key ∘ shape) right).map shape := by
  have shaped : ∀ rows : List ρ, (sortBy (key ∘ shape) rows).map shape = sortBy key (rows.map shape) := by
    intro rows
    apply List.map_insertionSort
    intro one _ other _
    exact Iff.rfl
  have sorted : ∀ rows : List σ, (sortBy key rows).Pairwise (fun one other => key one ≤ key other) := by
    intro rows
    have : Std.Total (fun one other : σ => key one ≤ key other) := ⟨fun one other => le_total _ _⟩
    have : IsTrans σ (fun one other => key one ≤ key other) := ⟨fun _ _ _ => le_trans⟩
    exact List.pairwise_insertionSort _ rows
  have one := perm_sortBy key (left.map shape)
  have keyed : ((left.map shape).map key).Nodup := by
    rw [List.map_map]
    exact distinct
  rw [shaped,shaped]
  apply List.Perm.eq_of_pairwise _ (sorted _) (sorted _) ((one.trans perm).trans (perm_sortBy key _).symm)
  intro first second inLeft inRight before after
  have inside := one.mem_iff.mp inLeft
  have outside := perm.mem_iff.mpr ((perm_sortBy key _).mem_iff.mp inRight)
  exact List.inj_on_of_nodup_map keyed inside outside (le_antisymm before after)

def mean (values : List ℚ) : Option ℚ := if values = [] then none else some (values.sum / values.length)

def hitRate (excessReturns : List ℚ) : Option ℚ :=
  if excessReturns = [] then none
  else some ((excessReturns.countP (fun value => decide (0 < value)) : ℚ) / excessReturns.length)

def medianOrNone (values : List ℚ) : Option ℚ :=
  let sorted := sortBy id values
  let middle := sorted.length / 2
  if sorted.length % 2 = 1 then sorted[middle]?
  else do
    let lower ← sorted[middle - 1]?
    let upper ← sorted[middle]?
    return (lower + upper) / 2

-- The position of each value in the stable order of all.
def toRanks (values : List ℚ) : List ℚ :=
  let order := sortBy (fun index => values[index]?.getD 0) (List.range values.length)
  (List.range values.length).map (fun index => (order.idxOf index : ℚ))

-- Both lists of ranks hold the positions 0..n-1, so their variances are one number
-- and the product of its square roots is that number.
def spearmanRankCorrelation (ranks outcomes : List ℚ) : Option ℚ :=
  let count := ranks.length
  if count < 2 ∨ outcomes.length ≠ count then none else
  let xs := toRanks (ranks.map (fun value => -value))
  let ys := toRanks outcomes
  let meanX := xs.sum / count
  let meanY := ys.sum / count
  let covariance := ((xs.zip ys).map (fun pair => (pair.1 - meanX) * (pair.2 - meanY))).sum
  let varianceX := (xs.map (fun value => (value - meanX) ^ 2)).sum
  let varianceY := (ys.map (fun value => (value - meanY) ^ 2)).sum
  if varianceX = 0 ∨ varianceY = 0 then none else some (covariance / varianceX)

-- The counts of a dictionary, which sum to the number of classified members.
def sectorConcentration (sectors : List Text) : Option ℚ :=
  if sectors = [] then none
  else some ((sectors.dedup.map (fun sector => ((sectors.count sector : ℚ) / sectors.length) ^ 2)).sum)

-- Members of the current selection that the previous one lacks.
def entered (current previous : List Text) : Nat := current.countP (fun symbol => decide (symbol ∉ previous))

-- `_turnover`, of symbols listed once.
def turnover (current : List Text) (previous : Option (List Text)) : Option ℚ :=
  match previous with
  | none => none
  | some previous => if current = [] then none else some ((entered current previous : ℚ) / current.length)

theorem turnover_eq : turnover current first = turnover current second ↔
      current = [] ∨ first.map (entered current) = second.map (entered current) := by
  by_cases empty : current = []
  · subst empty
    cases first <;> cases second <;> simp [turnover]
  · have size : (current.length : ℚ) ≠ 0 := by simpa using empty
    cases first <;> cases second <;> simp [turnover,empty,div_left_inj' size]

end OpenStock.Ranking
