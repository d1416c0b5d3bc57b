import OpenStock.Foundations.Rows

namespace OpenStock.Temporal

/- A table of versions: each row holds from one instant until another, or until
further notice. A new version closes the open ones and is appended. -/

variable {starts : ρ → τ} {ends : ρ → Option τ} {rows : List ρ}

def holdsAt [LinearOrder τ] (starts : ρ → τ) (ends : ρ → Option τ) (instant : τ) (row : ρ) : Bool :=
  decide (starts row ≤ instant) && (ends row).all (fun ending => decide (instant < ending))

-- `UPDATE ... SET ending = ? WHERE selects AND ending IS NULL`
def close (ends : ρ → Option τ) (selects : ρ → Bool) (edit : ρ → ρ) (rows : List ρ) : List ρ :=
  Rows.updateWhere (fun row => selects row && (ends row).isNone) edit rows

variable {edit : ρ → ρ} {selects : ρ → Bool}

-- Reading as of an instant before the closing shows the same rows but for their ends.
theorem close_asOf [LinearOrder τ] (later : instant < ending)
    (started : ∀ row, starts (edit row) = starts row) (ended : ∀ row, ends (edit row) = some ending)
    (kept : ∀ row, forget (edit row) = forget row) :
    ((close ends selects edit rows).filter (holdsAt starts ends instant)).map forget =
      (rows.filter (holdsAt starts ends instant)).map forget := by
  induction rows with
  | nil => rfl
  | cons head rows ih =>
    have shape : close ends selects edit (head :: rows) =
        (if selects head && (ends head).isNone then edit head else head) :: close ends selects edit rows := rfl
    rw [shape,List.filter_cons,List.filter_cons]
    by_cases met : (selects head && (ends head).isNone) = true
    · have unended : ends head = none := by
        rw [Bool.and_eq_true,Option.isNone_iff_eq_none] at met
        exact met.2
      have same : holdsAt starts ends instant (edit head) = holdsAt starts ends instant head := by
        simp [holdsAt,started,ended,unended,later]
      rw [if_pos met,same]
      cases holdsAt starts ends instant head with
      | false => simpa using ih
      | true => simpa [kept] using ih
    · rw [if_neg met]
      cases holdsAt starts ends instant head with
      | false => simpa using ih
      | true => simpa using ih

theorem append_asOf [LinearOrder τ] (later : instant < starts new) :
    (rows ++ [new]).filter (holdsAt starts ends instant) = rows.filter (holdsAt starts ends instant) := by
  have hidden : holdsAt starts ends instant new = false := by simp [holdsAt,later]
  simp [List.filter_append,hidden]

-- No selected row is open any longer.
theorem close_open (ended : ∀ row, (ends (edit row)).isNone = false) :
    (close ends selects edit rows).filter (fun row => selects row && (ends row).isNone) = [] := by
  apply List.filter_eq_nil_iff.mpr
  intro row inside
  obtain ⟨source,_,rfl⟩ := List.mem_map.mp inside
  by_cases met : (selects source && (ends source).isNone) = true
  · rw [if_pos met,ended]
    simp
  · rw [if_neg met]
    exact met

-- The rows of another selection are not touched.
theorem close_others {selects test : ρ → Bool} (kept : ∀ row, selects (edit row) = selects row)
    (apart : ∀ row, test row = true → selects row = false) : (close ends selects edit rows).filter test = rows.filter test := by
  have disjoint : ∀ row, selects row = true → test row = false := by
    intro row selected
    cases met : test row with
    | false => rfl
    | true => exact absurd selected (by rw [apart row met]; exact Bool.false_ne_true)
  apply Rows.filter_updateWhere
  intro row _ met
  have selected : selects row = true := (Bool.and_eq_true_iff.mp met).1
  exact ⟨disjoint row selected,disjoint (edit row) ((kept row).trans selected)⟩

end OpenStock.Temporal
