import Mathlib.Data.List.Basic

namespace OpenStock.Rebuild

-- A derived table and its rebuild inside a window. Tables are compared as sets
-- of rows.
variable {window : ρ → Bool} {full stored : List ρ} {row : ρ}

def Same (left right : List ρ) : Prop := ∀ row, row ∈ left ↔ row ∈ right

theorem same_symm (same : Same left right) : Same right left := fun row => (same row).symm

theorem same_trans (first : Same left middle) (second : Same middle right) : Same left right :=
  fun row => (first row).trans (second row)

-- Inside the window the derived rows replace the stored ones.
def ranged (window : ρ → Bool) (full stored : List ρ) : List ρ := stored.filter (fun row => !window row) ++ full.filter window

theorem mem_ranged : row ∈ ranged window full stored ↔
    (window row = false ∧ row ∈ stored) ∨ (window row = true ∧ row ∈ full) := by
  simp [ranged,and_comm]

-- The table comes out fully rebuilt exactly when it already is outside the window.
theorem ranged_full : Same (ranged window full stored) full ↔ ∀ row, window row = false → (row ∈ stored ↔ row ∈ full) := by
  constructor
  · intro same row outside
    have listed := same row
    rw [mem_ranged] at listed
    simpa [outside] using listed
  · intro outside row
    rw [mem_ranged]
    cases met : window row with
    | false => simpa using outside row met
    | true => simp

theorem ranged_settled (settled : Same stored full) : Same (ranged window full stored) full :=
  ranged_full.mpr (fun row _ => settled row)

theorem ranged_covering (storedInside : ∀ row ∈ stored, window row = true) (fullInside : ∀ row ∈ full, window row = true) :
    Same (ranged window full stored) full := by
  apply ranged_full.mpr
  intro row outside
  constructor
  · intro inside
    rw [storedInside row inside] at outside
    cases outside
  · intro inside
    rw [fullInside row inside] at outside
    cases outside

end OpenStock.Rebuild
