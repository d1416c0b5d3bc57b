import Mathlib.Tactic

namespace OpenStock.Replacement

-- A pattern that is looked for at the head of a list: what a match captures and
-- the list after it, and what is written in the place of the match.
structure Pattern (α κ : Type) where
  find : List α → Option (κ × List α)
  cover : κ → List α
  shorter : find text = some (captured,rest) → rest.length < text.length
  visible : cover captured ≠ []

variable {α κ : Type} (pattern : Pattern α κ)

-- Matches are replaced from the left and do not overlap.
def replaceFrom : Nat → List α → List α
  | 0,_ => []
  | _ + 1,[] => []
  | fuel + 1,c :: text =>
    match pattern.find (c :: text) with
    | some (captured,rest) => pattern.cover captured ++ replaceFrom fuel rest
    | none => c :: replaceFrom fuel text

def replaceAll (text : List α) : List α := replaceFrom pattern text.length text

def capturesFrom : Nat → List α → List κ
  | 0,_ => []
  | _ + 1,[] => []
  | fuel + 1,c :: text =>
    match pattern.find (c :: text) with
    | some (captured,rest) => captured :: capturesFrom fuel rest
    | none => capturesFrom fuel text

def captures (text : List α) : List κ := capturesFrom pattern text.length text

variable {pattern}

theorem find_nil : pattern.find [] = none := by
  cases found : pattern.find [] with
  | none => rfl
  | some hit => exact absurd (pattern.shorter found) (by simp)

theorem replaceFrom_enough (text : List α) (fuel : Nat) (enough : text.length ≤ fuel) :
    replaceFrom pattern fuel text = replaceAll pattern text := by
  induction fuel using Nat.strongRecOn generalizing text with
  | ind fuel ih =>
    cases text with
    | nil => cases fuel <;> rfl
    | cons c text =>
      cases fuel with
      | zero => exact absurd enough (by simp)
      | succ fuel =>
        simp only [List.length_cons,Nat.add_le_add_iff_right] at enough
        rw [replaceAll,List.length_cons,replaceFrom,replaceFrom]
        cases found : pattern.find (c :: text) with
        | none =>
          have same := ih fuel (by omega) text enough
          dsimp only
          rw [same,replaceAll]
        | some hit =>
          obtain ⟨captured,rest⟩ := hit
          have bound := pattern.shorter found
          rw [List.length_cons] at bound
          have here := ih fuel (by omega) rest (by omega)
          dsimp only
          rw [here]
          by_cases equal : fuel = text.length
          · rw [← equal,here]
          · rw [ih text.length (by omega) rest (by omega)]

@[simp] theorem replaceAll_nil : replaceAll pattern [] = [] := rfl

theorem replaceAll_missed (missed : pattern.find (c :: text) = none) :
    replaceAll pattern (c :: text) = c :: replaceAll pattern text := by
  rw [replaceAll,List.length_cons,replaceFrom,missed]
  rfl

theorem replaceAll_found (found : pattern.find text = some (captured,rest)) :
    replaceAll pattern text = pattern.cover captured ++ replaceAll pattern rest := by
  cases text with
  | nil => rw [find_nil] at found; cases found
  | cons c text =>
    have bound := pattern.shorter found
    rw [List.length_cons] at bound
    rw [replaceAll,List.length_cons,replaceFrom,found]
    dsimp only
    rw [replaceFrom_enough rest text.length (by omega)]

-- How a text falls apart: characters that no match starts at, and matches.
theorem pieces_induction {motive : List α → Prop} (nil : motive [])
    (missed : ∀ c text, pattern.find (c :: text) = none → motive text → motive (c :: text))
    (found : ∀ text captured rest, pattern.find text = some (captured,rest) → motive rest → motive text)
    (text : List α) : motive text := by
  induction size : text.length using Nat.strongRecOn generalizing text with
  | ind size ih =>
    subst size
    cases text with
    | nil => exact nil
    | cons c text =>
      cases here : pattern.find (c :: text) with
      | none =>
        apply missed c text here
        exact ih text.length (by simp) text rfl
      | some hit =>
        obtain ⟨captured,rest⟩ := hit
        apply found (c :: text) captured rest here
        exact ih rest.length (pattern.shorter here) rest rfl

theorem replaceAll_eq_nil : replaceAll pattern text = [] ↔ text = [] := by
  constructor
  · intro empty
    cases text with
    | nil => rfl
    | cons c text =>
      cases found : pattern.find (c :: text) with
      | none => rw [replaceAll_missed found] at empty; cases empty
      | some hit =>
        rw [replaceAll_found found,List.append_eq_nil_iff] at empty
        exact absurd empty.1 pattern.visible
  · intro empty
    rw [empty,replaceAll_nil]

/- Two texts that differ in what is replaced only. -/

variable (pattern) in
inductive Alike : List α → List α → Prop where
  | nil : Alike [] []
  | missed (left : pattern.find (c :: text) = none) (right : pattern.find (c :: other) = none)
      (rest : Alike text other) : Alike (c :: text) (c :: other)
  | found (left : pattern.find text = some (captured,rest)) (right : pattern.find other = some (captured,later))
      (rests : Alike rest later) : Alike text other

theorem alike_refl (text : List α) : Alike pattern text text := by
  induction text using @pieces_induction α κ pattern with
  | nil => exact .nil
  | missed c text missed ih => exact .missed missed missed ih
  | found text captured rest found ih => exact .found found found ih

theorem alike_replaced (alike : Alike pattern text other) : replaceAll pattern text = replaceAll pattern other := by
  induction alike with
  | nil => rfl
  | missed left right _ ih => rw [replaceAll_missed left,replaceAll_missed right,ih]
  | found left right _ ih => rw [replaceAll_found left,replaceAll_found right,ih]

-- A replaced text still matches where the text did, and nowhere else.
variable (pattern) in
structure Stable : Prop where
  found : pattern.find text = some (captured,rest) →
    pattern.find (pattern.cover captured ++ replaceAll pattern rest) = some (captured,replaceAll pattern rest)
  missed : pattern.find (c :: text) = none → pattern.find (c :: replaceAll pattern text) = none

theorem find_replaced (stable : Stable pattern) (text : List α) : pattern.find (replaceAll pattern text) =
      (pattern.find text).map (fun hit => (hit.1,replaceAll pattern hit.2)) := by
  cases text with
  | nil => rw [replaceAll_nil,find_nil]; rfl
  | cons c text =>
    cases found : pattern.find (c :: text) with
    | none => rw [replaceAll_missed found,stable.missed found]; rfl
    | some hit => rw [replaceAll_found found,stable.found found]; rfl

theorem replaced_twice (stable : Stable pattern) (text : List α) :
    replaceAll pattern (replaceAll pattern text) = replaceAll pattern text := by
  induction text using @pieces_induction α κ pattern with
  | nil => rfl
  | missed c text missed ih => rw [replaceAll_missed missed,replaceAll_missed (stable.missed missed),ih]
  | found text captured rest found ih =>
    have again : pattern.find (replaceAll pattern text) = some (captured,replaceAll pattern rest) := by
      rw [find_replaced stable,found]
      rfl
    rw [replaceAll_found again,ih,replaceAll_found found]

theorem replaced_alike (stable : Stable pattern) (text other : List α)
    (same : replaceAll pattern text = replaceAll pattern other) : Alike pattern text other := by
  have hits : (pattern.find text).map (fun hit => (hit.1,replaceAll pattern hit.2)) =
      (pattern.find other).map (fun hit => (hit.1,replaceAll pattern hit.2)) := by
    rw [← find_replaced stable,← find_replaced stable,same]
  induction text using @pieces_induction α κ pattern generalizing other with
  | nil =>
    rw [replaceAll_nil] at same
    rw [replaceAll_eq_nil.mp same.symm]
    exact .nil
  | missed c text missed ih =>
    rw [missed,Option.map_none] at hits
    have absent : pattern.find other = none := Option.map_eq_none_iff.mp hits.symm
    rw [replaceAll_missed missed] at same
    cases other with
    | nil => cases same
    | cons d other =>
      rw [replaceAll_missed absent] at same
      obtain ⟨rfl,rests⟩ := List.cons.inj same
      apply Alike.missed missed absent
      apply ih other rests
      rw [← find_replaced stable,← find_replaced stable,rests]
  | found text captured rest found ih =>
    rw [found,Option.map_some] at hits
    obtain ⟨⟨again,later⟩,present,equal⟩ := Option.map_eq_some_iff.mp hits.symm
    obtain ⟨rfl,rests⟩ := Prod.mk.inj equal
    apply Alike.found found present
    apply ih later rests.symm
    rw [← find_replaced stable,← find_replaced stable,rests]

theorem replaced_iff (stable : Stable pattern) (text other : List α) :
    replaceAll pattern text = replaceAll pattern other ↔ Alike pattern text other :=
  ⟨replaced_alike stable text other,alike_replaced⟩

end OpenStock.Replacement
