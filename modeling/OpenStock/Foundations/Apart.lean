import OpenStock.Foundations.Rows

namespace OpenStock.Rows
variable {key : ρ → κ} {rows : List ρ} {relates : ρ → ρ → Prop}

-- What holds between any two rows of a table, in both directions.
def Apart (key : ρ → κ) (relates : ρ → ρ → Prop) (rows : List ρ) : Prop :=
  ∀ left ∈ rows, ∀ right ∈ rows, key left ≠ key right → relates left right

theorem apart_append (fresh : ∀ row ∈ rows, key row ≠ key new) :
    Apart key relates (rows ++ [new]) ↔ Apart key relates rows ∧ ∀ row ∈ rows, relates new row ∧ relates row new := by
  constructor
  · intro apart
    have old : ∀ row ∈ rows, row ∈ rows ++ [new] := fun row inside => List.mem_append.mpr (.inl inside)
    have last : new ∈ rows ++ [new] := by simp
    refine ⟨fun left insideLeft right insideRight => apart left (old left insideLeft) right (old right insideRight),?_⟩
    intro row inside
    exact ⟨apart new last row (old row inside) (fresh row inside).symm,apart row (old row inside) new last (fresh row inside)⟩
  · intro ⟨apart,beside⟩ left insideLeft right insideRight differs
    rcases List.mem_append.mp insideLeft with insideLeft | lastLeft
    · rcases List.mem_append.mp insideRight with insideRight | lastRight
      · exact apart left insideLeft right insideRight differs
      · cases List.mem_singleton.mp lastRight
        exact (beside left insideLeft).2
    · cases List.mem_singleton.mp lastLeft
      rcases List.mem_append.mp insideRight with insideRight | lastRight
      · exact (beside right insideRight).1
      · cases List.mem_singleton.mp lastRight
        exact absurd rfl differs

section edits
variable [BEq κ] [LawfulBEq κ] {edit : ρ → ρ}

-- `UPDATE ... WHERE key = ?` reaches one row.
theorem mem_updateKey (distinct : Distinct key rows) (present : old ∈ rows) :
    row ∈ updateWhere (fun row => key row == key old) edit rows ↔ (row ∈ rows ∧ key row ≠ key old) ∨ row = edit old := by
  unfold updateWhere
  constructor
  · intro inside
    obtain ⟨before,member,edited⟩ := List.mem_map.mp inside
    by_cases same : key before = key old
    · rw [same_row distinct member present same] at edited
      exact .inr (by simpa using edited.symm)
    · rw [if_neg (by simpa using same)] at edited
      exact .inl (by rw [←edited]; exact ⟨member,same⟩)
  · intro cases'
    rcases cases' with ⟨inside,differs⟩ | edited
    · exact List.mem_map.mpr ⟨row,inside,if_neg (by simpa using differs)⟩
    · exact List.mem_map.mpr ⟨old,present,by simp [edited]⟩

theorem apart_update (kept : ∀ row, key (edit row) = key row) (distinct : Distinct key rows) (present : old ∈ rows) :
    Apart key relates (updateWhere (fun row => key row == key old) edit rows) ↔
      (∀ left ∈ rows, ∀ right ∈ rows, key left ≠ key old → key right ≠ key old → key left ≠ key right → relates left right) ∧
      ∀ row ∈ rows, key row ≠ key old → relates (edit old) row ∧ relates row (edit old) := by
  have inside {row : ρ} : row ∈ updateWhere (fun row => key row == key old) edit rows ↔
      (row ∈ rows ∧ key row ≠ key old) ∨ row = edit old := mem_updateKey distinct present
  constructor
  · intro apart
    constructor
    · intro left insideLeft right insideRight otherLeft otherRight differs
      exact apart left (inside.mpr (.inl ⟨insideLeft,otherLeft⟩)) right (inside.mpr (.inl ⟨insideRight,otherRight⟩)) differs
    · intro row member other
      have differs : key (edit old) ≠ key row := by
        rw [kept]
        exact other.symm
      have there := inside.mpr (.inl ⟨member,other⟩)
      exact ⟨apart _ (inside.mpr (.inr rfl)) row there differs,apart row there _ (inside.mpr (.inr rfl)) differs.symm⟩
  · intro ⟨others,edited⟩ left insideLeft right insideRight differs
    rcases inside.mp insideLeft with ⟨memberLeft,otherLeft⟩ | editedLeft
    · rcases inside.mp insideRight with ⟨memberRight,otherRight⟩ | editedRight
      · exact others left memberLeft right memberRight otherLeft otherRight differs
      · rw [editedRight]
        exact (edited left memberLeft otherLeft).2
    · rcases inside.mp insideRight with ⟨memberRight,otherRight⟩ | editedRight
      · rw [editedLeft]
        exact (edited right memberRight otherRight).1
      · rw [editedLeft,editedRight] at differs
        exact absurd rfl differs

end edits
end OpenStock.Rows
