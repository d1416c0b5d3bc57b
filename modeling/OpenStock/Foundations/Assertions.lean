import Mathlib.Logic.Function.Basic

namespace OpenStock.Assertions

-- What each source said last. A value is asserted while some source telling it.
variable {σ : Type u} {κ : Type v} [DecidableEq σ] {latest : σ → Option κ} {source : σ} {value other left : κ}

def Asserted (latest : σ → Option κ) (value : κ) : Prop := ∃ source, latest source = some value

def say (latest : σ → Option κ) (source : σ) (value : κ) : σ → Option κ := Function.update latest source (some value)

theorem say_source : say latest source value source = some value := by
  rw [say,Function.update_self]

theorem say_rest (differs : rest ≠ source) : say latest source value rest = latest rest := by
  rw [say,Function.update_of_ne differs]

theorem say_again (said : latest source = some value) : say latest source value = latest := by
  rw [say,← said,Function.update_eq_self]

theorem asserted_say : Asserted (say latest source value) other ↔
    other = value ∨ ∃ rest, rest ≠ source ∧ latest rest = some other := by
  constructor
  · rintro ⟨rest,said⟩
    by_cases same : rest = source
    · rw [same,say_source] at said
      exact .inl (Option.some.inj said).symm
    · rw [say_rest same] at said
      exact .inr ⟨rest,same,said⟩
  · rintro (rfl | ⟨rest,differs,said⟩)
    · exact ⟨source,say_source⟩
    · exact ⟨rest,(say_rest differs).trans said⟩

-- The first value of a source joins the asserted ones.
theorem asserted_first (silent : latest source = none) :
    Asserted (say latest source value) other ↔ other = value ∨ Asserted latest other := by
  rw [asserted_say]
  apply or_congr_right
  constructor
  · rintro ⟨rest,_,said⟩
    exact ⟨rest,said⟩
  · rintro ⟨rest,said⟩
    refine ⟨rest,?_,said⟩
    rintro rfl
    rw [silent] at said
    cases said

-- A value that only its source telling is no longer asserted once it telling another.
theorem asserted_moved (said : latest source = some left) (alone : ∀ rest, latest rest = some left → rest = source) :
    Asserted (say latest source value) other ↔ other = value ∨ (Asserted latest other ∧ other ≠ left) := by
  rw [asserted_say]
  apply or_congr_right
  constructor
  · rintro ⟨rest,differs,telling⟩
    refine ⟨⟨rest,telling⟩,?_⟩
    rintro rfl
    exact differs (alone rest telling)
  · rintro ⟨⟨rest,telling⟩,stays⟩
    refine ⟨rest,?_,telling⟩
    rintro rfl
    exact stays (Option.some.inj (telling.symm.trans said))

end OpenStock.Assertions
