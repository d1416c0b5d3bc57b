import Mathlib.Data.List.Induction
import Mathlib.Data.List.Nodup
import Mathlib.Data.List.Sort

namespace OpenStock.Grouping

/- A dictionary of lists, filled by a pass over rows: keys in the order they are
met, members in the order of the rows. -/

variable [DecidableEq κ] {key : ρ → κ} {rows : List ρ}

def add (key : ρ → κ) (groups : List (κ × List ρ)) (row : ρ) : List (κ × List ρ) :=
  if key row ∈ groups.map Prod.fst then
    groups.map (fun group => if group.1 = key row then (group.1,group.2 ++ [row]) else group)
  else groups ++ [(key row,[row])]

def collect (key : ρ → κ) (rows : List ρ) : List (κ × List ρ) := rows.foldl (add key) []

-- Each key once, with all rows of that key.
structure Grouped (key : ρ → κ) (rows : List ρ) (groups : List (κ × List ρ)) : Prop where
  once : (groups.map Prod.fst).Nodup
  members : ∀ group ∈ groups, group.2 = rows.filter (fun row => decide (key row = group.1))
  listed : ∀ row ∈ rows, key row ∈ groups.map Prod.fst
  nonempty : ∀ group ∈ groups, group.2 ≠ []

theorem add_grouped {groups : List (κ × List ρ)} (grouped : Grouped key rows groups) (row : ρ) :
    Grouped key (rows ++ [row]) (add key groups row) := by
  unfold add
  split
  · rename_i present
    have keys : (groups.map (fun group => if group.1 = key row then (group.1,group.2 ++ [row]) else group)).map Prod.fst =
        groups.map Prod.fst := by
      rw [List.map_map]
      apply List.map_congr_left
      intro group _
      by_cases same : group.1 = key row <;> simp [same]
    refine ⟨keys ▸ grouped.once,?_,?_,?_⟩
    · intro group inside
      obtain ⟨source,member,rfl⟩ := List.mem_map.mp inside
      have before := grouped.members source member
      by_cases same : source.1 = key row
      · simp [same,List.filter_append,before]
      · simp [same,List.filter_append,before,Ne.symm same]
    · intro other inside
      rw [keys]
      rcases List.mem_append.mp inside with before | latest
      · exact grouped.listed other before
      · rw [List.mem_singleton.mp latest]
        exact present
    · intro group inside
      obtain ⟨source,member,rfl⟩ := List.mem_map.mp inside
      by_cases same : source.1 = key row
      · simp [same]
      · simpa [same] using grouped.nonempty source member
  · rename_i absent
    refine ⟨?_,?_,?_,?_⟩
    · rw [List.map_append,List.nodup_append]
      refine ⟨grouped.once,by simp,?_⟩
      intro left inside right single same
      rw [List.map_singleton,List.mem_singleton] at single
      rw [same,single] at inside
      exact absent inside
    · intro group inside
      rcases List.mem_append.mp inside with before | latest
      · have differs : key row ≠ group.1 := fun same => absent (same ▸ List.mem_map_of_mem before)
        simp [List.filter_append,grouped.members group before,differs]
      · rw [List.mem_singleton.mp latest]
        have none : rows.filter (fun other => decide (key other = key row)) = [] := by
          apply List.filter_eq_nil_iff.mpr
          intro other inside same
          exact absent (of_decide_eq_true same ▸ grouped.listed other inside)
        simp [List.filter_append,none]
    · intro other inside
      rw [List.map_append]
      rcases List.mem_append.mp inside with before | latest
      · exact List.mem_append_left _ (grouped.listed other before)
      · rw [List.mem_singleton.mp latest]
        exact List.mem_append_right _ (by simp)
    · intro group inside
      rcases List.mem_append.mp inside with before | latest
      · exact grouped.nonempty group before
      · rw [List.mem_singleton.mp latest]
        simp

theorem collect_grouped (key : ρ → κ) (rows : List ρ) : Grouped key rows (collect key rows) := by
  induction rows using List.reverseRecOn with
  | nil => exact ⟨List.nodup_nil,by simp [collect],by simp,by simp [collect]⟩
  | append_singleton rows row ih =>
    have shape : collect key (rows ++ [row]) = add key (collect key rows) row := by
      rw [collect,List.foldl_append]
      rfl
    rw [shape]
    exact add_grouped ih row

/- A pass over the groups, where each step concerns its own key only. -/

def Proper (key : ρ → κ) (group : κ × List ρ) : Prop := ∀ row ∈ group.2, key row = group.1

def Local (key : ρ → κ) (step : σ → κ × List ρ → σ) (view : σ → κ → α) (effect : List ρ → α → α) : Prop :=
  ∀ state group sought, Proper key group → view (step state group) sought =
    if sought = group.1 then effect group.2 (view state sought) else view state sought

section pass
variable {step : σ → κ × List ρ → σ} {view : σ → κ → α} {effect : List ρ → α → α} {groups : List (κ × List ρ)}

theorem fold_others (alone : Local key step view effect) (proper : ∀ group ∈ groups, Proper key group)
    (sought : κ) (state : σ) (absent : sought ∉ groups.map Prod.fst) :
    view (groups.foldl step state) sought = view state sought := by
  induction groups generalizing state with
  | nil => rfl
  | cons group groups ih =>
    rw [List.map_cons,List.mem_cons,not_or] at absent
    have rest := ih (fun other inside => proper other (List.mem_cons_of_mem group inside)) (step state group) absent.2
    rw [List.foldl_cons,rest,alone state group sought (proper group List.mem_cons_self),if_neg absent.1]

theorem fold_view (alone : Local key step view effect) (proper : ∀ group ∈ groups, Proper key group)
    (once : (groups.map Prod.fst).Nodup) (state : σ) (present : group ∈ groups) :
    view (groups.foldl step state) group.1 = effect group.2 (view state group.1) := by
  induction groups generalizing state with
  | nil => cases present
  | cons head groups ih =>
    rw [List.map_cons,List.nodup_cons] at once
    have rest : ∀ other ∈ groups, Proper key other := fun other inside => proper other (List.mem_cons_of_mem head inside)
    have first := alone state head group.1 (proper head List.mem_cons_self)
    rw [List.foldl_cons]
    rcases List.mem_cons.mp present with rfl | later
    · rw [fold_others alone rest group.1 _ once.1,first,if_pos rfl]
    · have differs : group.1 ≠ head.1 := fun same => once.1 (same ▸ List.mem_map_of_mem later)
      rw [ih rest once.2 _ later,first,if_neg differs]

theorem grouped_proper {rows : List ρ} (grouped : Grouped key rows groups) : ∀ group ∈ groups, Proper key group := by
  intro group inside row member
  rw [grouped.members group inside] at member
  exact of_decide_eq_true (List.mem_filter.mp member).2

-- What the pass leaves for each key.
theorem collect_view (alone : Local key step view effect) (rows : List ρ) (state : σ) (sought : κ) :
    view ((collect key rows).foldl step state) sought =
      if rows.filter (fun row => decide (key row = sought)) = [] then view state sought
      else effect (rows.filter (fun row => decide (key row = sought))) (view state sought) := by
  have grouped := collect_grouped key rows
  by_cases present : sought ∈ (collect key rows).map Prod.fst
  · obtain ⟨group,inside,rfl⟩ := List.mem_map.mp present
    have filled := grouped.nonempty group inside
    rw [grouped.members group inside] at filled
    rw [fold_view alone (grouped_proper grouped) grouped.once state inside,if_neg filled,← grouped.members group inside]
  · have none : rows.filter (fun row => decide (key row = sought)) = [] := by
      apply List.filter_eq_nil_iff.mpr
      intro row inside same
      exact present (of_decide_eq_true same ▸ grouped.listed row inside)
    rw [fold_others alone (grouped_proper grouped) sought state present,if_pos none]

end pass

/- Selecting rows before a stable sort and after it. -/

section order
variable {before : ρ → ρ → Prop} [DecidableRel before] [IsTrans ρ before] [Std.Total before] (selects : ρ → Bool)

omit [Std.Total before] in
theorem filter_orderedInsert (row : ρ) {sorted : List ρ} (ordered : sorted.Pairwise before) :
    (sorted.orderedInsert before row).filter selects =
      if selects row then (sorted.filter selects).orderedInsert before row else sorted.filter selects := by
  induction sorted with
  | nil => cases met : selects row <;> simp [met]
  | cons head sorted ih =>
    obtain ⟨leads,rest⟩ := List.pairwise_cons.mp ordered
    rw [List.orderedInsert_cons]
    by_cases ahead : before row head
    · rw [if_pos ahead]
      cases met : selects row with
      | false => simp [met]
      | true =>
        have first : ∀ other ∈ (head :: sorted).filter selects, before row other := by
          intro other inside
          rcases List.mem_cons.mp (List.mem_filter.mp inside).1 with rfl | later
          · exact ahead
          · exact Trans.trans ahead (leads other later)
        rw [List.filter_cons_of_pos met]
        cases kept : (head :: sorted).filter selects with
        | nil => simp
        | cons top others => simp [first top (by rw [kept]; exact List.mem_cons_self)]
    · rw [if_neg ahead,List.filter_cons,List.filter_cons,ih rest]
      cases met : selects row <;> cases also : selects head <;> simp [ahead]

theorem filter_insertionSort (rows : List ρ) :
    (rows.insertionSort before).filter selects = (rows.filter selects).insertionSort before := by
  induction rows with
  | nil => rfl
  | cons row rows ih =>
    rw [List.insertionSort_cons,filter_orderedInsert selects row (List.pairwise_insertionSort before rows),ih,List.filter_cons]
    cases met : selects row <;> simp

end order
end OpenStock.Grouping
