import Mathlib.Data.List.Basic

namespace OpenStock.Framing

-- Fields one after the other, each ended by a separator.
def frame (separator : α) (fields : List (List α)) : List α := fields.flatMap (fun field => field ++ [separator])

theorem cut_first {separator : α} {left right rest later : List α} (leftPlain : separator ∉ left)
    (rightPlain : separator ∉ right) (same : left ++ separator :: rest = right ++ separator :: later) :
    left = right ∧ rest = later := by
  induction left generalizing right with
  | nil =>
    cases right with
    | nil => exact ⟨rfl,(List.cons.inj same).2⟩
    | cons c right =>
      have first : separator = c := (List.cons.inj same).1
      exact absurd (by rw [first]; exact List.mem_cons_self) rightPlain
  | cons c left ih =>
    cases right with
    | nil =>
      have first : c = separator := (List.cons.inj same).1
      exact absurd (by rw [first]; exact List.mem_cons_self) leftPlain
    | cons d right =>
      obtain ⟨rfl,tails⟩ := List.cons.inj same
      obtain ⟨rfl,rests⟩ := ih (fun inside => leftPlain (List.mem_cons_of_mem _ inside))
        (fun inside => rightPlain (List.mem_cons_of_mem _ inside)) tails
      exact ⟨rfl,rests⟩

variable {left right : List (List α)} {separator : α}

-- Fields without the separator are read back.
theorem frame_injective (leftPlain : ∀ field ∈ left, separator ∉ field)
    (rightPlain : ∀ field ∈ right, separator ∉ field) (same : frame separator left = frame separator right) : left = right := by
  induction left generalizing right with
  | nil =>
    cases right with
    | nil => rfl
    | cons field right => simp [frame] at same
  | cons field left ih =>
    cases right with
    | nil => simp [frame] at same
    | cons other right =>
      have split : ∀ (one : List α) (more : List (List α)), frame separator (one :: more) = one ++ separator :: frame separator more := by
        intro one more
        simp [frame]
      rw [split,split] at same
      obtain ⟨rfl,rests⟩ := cut_first (leftPlain field List.mem_cons_self) (rightPlain other List.mem_cons_self) same
      rw [ih (fun one inside => leftPlain one (List.mem_cons_of_mem _ inside))
        (fun one inside => rightPlain one (List.mem_cons_of_mem _ inside)) rests]

-- A joined list of parts, with a separator more at its end.
theorem intercalate_frame (separator : α) (some' : parts ≠ []) :
    [separator].intercalate parts ++ [separator] = frame separator parts := by
  induction parts with
  | nil => exact absurd rfl some'
  | cons part parts ih =>
    cases parts with
    | nil => simp [frame]
    | cons next parts =>
      have tail := ih (List.cons_ne_nil _ _)
      rw [List.intercalate_cons_cons,List.append_assoc,List.append_assoc,tail]
      simp [frame]

theorem intercalate_injective (leftSome : left ≠ []) (rightSome : right ≠ [])
    (leftPlain : ∀ part ∈ left, separator ∉ part) (rightPlain : ∀ part ∈ right, separator ∉ part)
    (same : [separator].intercalate left = [separator].intercalate right) : left = right := by
  apply frame_injective leftPlain rightPlain
  rw [← intercalate_frame separator leftSome,← intercalate_frame separator rightSome,same]

-- Pairs of fields, one after the other.
def pairFields (pairs : List (List α × List α)) : List (List α) := pairs.flatMap (fun pair => [pair.1,pair.2])

theorem pairFields_injective {left right : List (List α × List α)} (same : pairFields left = pairFields right) : left = right := by
  induction left generalizing right with
  | nil =>
    cases right with
    | nil => rfl
    | cons pair right => cases same
  | cons pair left ih =>
    cases right with
    | nil => cases same
    | cons other right =>
      have parts : pair.1 :: pair.2 :: pairFields left = other.1 :: other.2 :: pairFields right := same
      obtain ⟨first,rest⟩ := List.cons.inj parts
      obtain ⟨second,rests⟩ := List.cons.inj rest
      rw [ih rests,Prod.ext first second]

theorem pairFields_members (inside : field ∈ pairFields pairs) : ∃ pair ∈ pairs, field = pair.1 ∨ field = pair.2 := by
  obtain ⟨pair,member,here⟩ := List.mem_flatMap.mp inside
  exact ⟨pair,member,by simpa using here⟩

end OpenStock.Framing
