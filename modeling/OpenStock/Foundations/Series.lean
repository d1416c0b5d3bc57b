import Mathlib.Algebra.Order.BigOperators.Group.List
import Mathlib.Algebra.Order.Field.Basic
import Mathlib.Data.List.ReduceOption
import Mathlib.Data.Rat.Floor

namespace OpenStock

-- A column of values, one a row; a missing value is none.
abbrev Series (α : Type) := Nat → Option α

end OpenStock

namespace OpenStock.Series
variable {α β : Type} {size minimum row : Nat} {series : Series α}

/- Columns from columns. -/

def shift (periods : Nat) (series : Series α) : Series α := fun row => if row < periods then none else series (row - periods)

def combine (operation : α → α → Option β) (left right : Series α) : Series β := fun row =>
  (left row).bind (fun one => (right row).bind (operation one))

-- The last `size` rows up to this one, as many as there are.
def window (size : Nat) (series : Series α) (row : Nat) : List (Option α) :=
  (List.range' (row + 1 - size) (row + 1 - (row + 1 - size))).map series

-- A statistic of the values present in the window, where there are enough of them.
def rolling (size minimum : Nat) (statistic : List α → Option α) (series : Series α) : Series α := fun row =>
  let present := (window size series row).reduceOption
  if minimum ≤ present.length then statistic present else none

-- The same of the window as it stands.
def rollingApply (size minimum : Nat) (statistic : List (Option α) → Option α) (series : Series α) : Series α := fun row =>
  let values := window size series row
  if minimum ≤ values.reduceOption.length then statistic values else none

/- Statistics. -/

def mean (values : List ℚ) : Option ℚ := if values = [] then none else some (values.sum / values.length)

-- With one degree of freedom less than values.
def variance (values : List ℚ) : Option ℚ :=
  match mean values with
  | none => none
  | some centre =>
    if values.length < 2 then none
    else some ((values.map (fun value => (value - centre) * (value - centre))).sum / (values.length - 1))

/- Windows that are full. -/

-- All of the window's rows have a value.
def Full (size : Nat) (series : Series α) (row : Nat) : Prop := size ≤ row + 1 ∧ ∀ k, row < k + size → k ≤ row → (series k).isSome = true

theorem window_member (enough : size ≤ row + 1) :
    value ∈ window size series row ↔ ∃ k, row < k + size ∧ k ≤ row ∧ series k = value := by
  simp only [window,List.mem_map,List.mem_range'_1]
  constructor
  · intro ⟨k,bounds,same⟩
    exact ⟨k,by omega,by omega,same⟩
  · intro ⟨k,low,high,same⟩
    exact ⟨k,by omega,same⟩

theorem window_length (enough : size ≤ row + 1) : (window size series row).length = size := by
  simp only [window,List.length_map,List.length_range']
  omega

theorem all_present {values : List (Option α)} (present : ∀ value ∈ values, value.isSome = true) :
    values = values.reduceOption.map some := by
  induction values with
  | nil => rfl
  | cons value values later =>
    have rest := later (fun other member => present other (List.mem_cons_of_mem _ member))
    cases value with
    | none => cases present none (List.mem_cons_self ..)
    | some value =>
      rw [List.reduceOption_cons_of_some,List.map_cons]
      exact congrArg _ rest

-- A full window holds the values of its rows and no others.
theorem full_values (full : Full size series row) : ∃ values : List α, window size series row = values.map some ∧ values.length = size ∧
    ∀ value, value ∈ values ↔ ∃ k, row < k + size ∧ k ≤ row ∧ series k = some value := by
  obtain ⟨enough,present⟩ := full
  have given : ∀ value ∈ window size series row, value.isSome = true := by
    intro value member
    obtain ⟨k,low,high,same⟩ := (window_member enough).mp member
    exact same ▸ present k low high
  have same := all_present given
  refine ⟨(window size series row).reduceOption,same,?_,?_⟩
  · have lengths := congrArg List.length same
    rw [List.length_map,window_length enough] at lengths
    exact lengths.symm
  · intro value
    rw [List.reduceOption_mem_iff]
    exact window_member enough

theorem reduceOption_somes (values : List α) : (values.map some).reduceOption = values := by
  induction values with
  | nil => rfl
  | cons value values later => rw [List.map_cons,List.reduceOption_cons_of_some,later]

-- Over a full window a statistic sees all of the window's values.
theorem rolling_full (full : Full size series row) (least : minimum ≤ size) (statistic : List α → Option α) :
    ∃ values : List α, rolling size minimum statistic series row = statistic values ∧ values.length = size ∧
      ∀ value, value ∈ values ↔ ∃ k, row < k + size ∧ k ≤ row ∧ series k = some value := by
  obtain ⟨values,shape,length,members⟩ := full_values full
  refine ⟨values,?_,length,members⟩
  simp only [rolling,shape,reduceOption_somes]
  exact if_pos (by omega)

theorem rollingApply_full (full : Full size series row) (statistic : List (Option α) → Option α) :
    rollingApply size size statistic series row = statistic (window size series row) := by
  obtain ⟨values,shape,length,_⟩ := full_values full
  simp only [rollingApply,shape,reduceOption_somes]
  exact if_pos (by omega)

theorem shift_value (enough : periods ≤ row) : shift periods series row = series (row - periods) :=
  if_neg (Nat.not_lt.mpr enough)

/- Positive values. -/

def Positive (series : Series ℚ) (row : Nat) : Prop := ∃ value, series row = some value ∧ 0 < value

variable {values : List ℚ}

theorem mean_positive (some : values ≠ []) (positive : ∀ value ∈ values, 0 < value) :
    ∃ value, mean values = Option.some value ∧ 0 < value := by
  refine ⟨_,if_neg some,?_⟩
  have count : 0 < (values.length : ℚ) := by exact_mod_cast List.length_pos_of_ne_nil some
  exact div_pos (List.sum_pos values positive some) count

theorem mean_zero (some : values ≠ []) (nonnegative : ∀ value ∈ values, 0 ≤ value) :
    mean values = Option.some 0 ↔ ∀ value ∈ values, value = 0 := by
  have count : (values.length : ℚ) ≠ 0 := by exact_mod_cast (List.length_pos_of_ne_nil some).ne'
  have shape : mean values = Option.some (values.sum / values.length) := if_neg some
  rw [shape,Option.some.injEq,div_eq_zero_iff,or_iff_left count]
  constructor
  · intro none value member
    have atMost := List.single_le_sum nonnegative value member
    exact le_antisymm (none ▸ atMost) (nonnegative value member)
  · intro zeros
    exact List.sum_eq_zero zeros

end OpenStock.Series
