import Mathlib.Data.List.Perm.Basic
import Mathlib.Data.List.Sort
import Mathlib.Data.Prod.Lex
import Mathlib.Order.Defs.LinearOrder

namespace OpenStock.Ranks
variable [LinearOrder κ] {key : ρ → κ} {before : ρ → ρ → Prop} [DecidableRel before]

-- How many rows come before a row in the order of their keys.
def rank (key : ρ → κ) (rows : List ρ) (row : ρ) : Nat := rows.countP (fun other => decide (key other < key row))

theorem rank_perm (perm : left.Perm right) (row : ρ) : rank key left row = rank key right row := perm.countP_eq _

theorem rank_append (rows : List ρ) (new row : ρ) :
    rank key (rows ++ [new]) row = rank key rows row + if key new < key row then 1 else 0 := by
  unfold rank
  rw [List.countP_append]
  by_cases earlier : key new < key row <;> simp [earlier]

-- The ranks depend on the keys only.
theorem rank_keys (same : left.map key = right.map key) (row : ρ) : rank key left row = rank key right row := by
  have counted (rows : List ρ) : rank key rows row = (rows.map key).countP (fun other => decide (other < key row)) := by
    unfold rank
    rw [List.countP_map]
    rfl
  rw [counted,counted,same]

variable {rows : List ρ}

omit [DecidableRel before] in
-- In a sorted list without equal keys the first ones are those of low rank.
theorem mem_take_sorted (sorted : rows.Pairwise (fun left right => key left < key right)) (count : Nat) :
    row ∈ rows.take count ↔ row ∈ rows ∧ rank key rows row < count := by
  induction rows generalizing count with
  | nil => simp
  | cons head rows ih =>
    obtain ⟨least,rest⟩ := List.pairwise_cons.mp sorted
    cases count with
    | zero => simp
    | succ count =>
      rw [List.take_succ_cons,List.mem_cons,ih rest,List.mem_cons]
      constructor
      · intro either
        rcases either with first | ⟨inside,low⟩
        · refine ⟨.inl first,?_⟩
          have none' : rank key (head :: rows) row = 0 := by
            apply List.countP_eq_zero.mpr
            intro other member
            rw [first]
            rcases List.mem_cons.mp member with same | later
            · simp [same]
            · simpa using (least other later).le
          omega
        · refine ⟨.inr inside,?_⟩
          have one : rank key (head :: rows) row = rank key rows row + 1 := by simp [rank,least row inside]
          omega
      · intro ⟨either,low⟩
        rcases either with first | inside
        · exact .inl first
        · have one : rank key (head :: rows) row = rank key rows row + 1 := by simp [rank,least row inside]
          exact .inr ⟨inside,by omega⟩

-- Sorting by a key that no two rows share.
theorem sorted_strict (ordered : ∀ left right, before left right ↔ key left ≤ key right)
    (distinct : (rows.map key).Nodup) : (rows.insertionSort before).Pairwise (fun left right => key left < key right) := by
  have : Std.Total before := ⟨fun left right => by rw [ordered,ordered]; exact le_total _ _⟩
  have : IsTrans ρ before := ⟨fun left middle right => by rw [ordered,ordered,ordered]; exact le_trans⟩
  have apart : (rows.insertionSort before).Pairwise (fun left right => key left ≠ key right) :=
    List.pairwise_map.mp (((List.perm_insertionSort before rows).map key).nodup_iff.mpr distinct)
  apply ((List.pairwise_insertionSort before rows).and apart).imp
  intro left right both
  exact lt_of_le_of_ne ((ordered left right).mp both.1) both.2

-- The first rows in that order.
theorem mem_leading (ordered : ∀ left right, before left right ↔ key left ≤ key right)
    (distinct : (rows.map key).Nodup) (count : Nat) :
    row ∈ (rows.insertionSort before).take count ↔ row ∈ rows ∧ rank key rows row < count := by
  have perm := List.perm_insertionSort before rows
  rw [mem_take_sorted (sorted_strict ordered distinct),perm.mem_iff,rank_perm perm]

variable {left right : List ρ}

omit [DecidableRel before] in
-- A sorted list without equal keys is determined by its members.
theorem strict_unique (leftSorted : left.Pairwise (fun one other => key one < key other))
    (rightSorted : right.Pairwise (fun one other => key one < key other)) (same : ∀ row, row ∈ left ↔ row ∈ right) :
    left = right := by
  have nodup {rows : List ρ} (sorted : rows.Pairwise (fun one other => key one < key other)) : rows.Nodup := by
    apply sorted.imp
    intro one other less equal
    rw [equal] at less
    exact lt_irrefl _ less
  apply List.Perm.eq_of_pairwise _ leftSorted rightSorted ((List.perm_ext_iff_of_nodup (nodup leftSorted) (nodup rightSorted)).mpr same)
  intro one other _ _ less greater
  exact absurd greater less.not_gt

omit [DecidableRel before] in
-- There a row stands at its rank.
theorem idxOf_sorted [BEq ρ] [LawfulBEq ρ] {rows : List ρ} (sorted : rows.Pairwise (fun left right => key left < key right))
    (inside : row ∈ rows) : rows.idxOf row = rank key rows row := by
  induction rows with
  | nil => cases inside
  | cons head rows ih =>
    obtain ⟨least,rest⟩ := List.pairwise_cons.mp sorted
    rcases List.mem_cons.mp inside with rfl | later
    · rw [List.idxOf_cons_self,eq_comm]
      apply List.countP_eq_zero.mpr
      intro other member
      rcases List.mem_cons.mp member with same | after
      · simp [same]
      · simpa using (least other after).le
    · have apart : head ≠ row := by
        rintro rfl
        exact lt_irrefl _ (least head later)
      rw [List.idxOf_cons_ne _ apart,ih rest later]
      simp [rank,least row later]

-- Insertion keeps rows of one key in the order they came.
theorem stable_insert [LinearOrder μ] {place : ρ → μ} (ordered : ∀ left right, before left right ↔ key left ≤ key right)
    (sorted : rows.Pairwise (fun left right => toLex (key left,place left) < toLex (key right,place right)))
    (first : ∀ other ∈ rows, place row < place other) :
    (rows.orderedInsert before row).Pairwise (fun left right => toLex (key left,place left) < toLex (key right,place right)) := by
  induction rows with
  | nil => simp
  | cons head rows ih =>
    obtain ⟨least,rest⟩ := List.pairwise_cons.mp sorted
    rw [List.orderedInsert_cons]
    split
    · rename_i ahead
      rw [List.pairwise_cons]
      refine ⟨?_,sorted⟩
      intro other inside
      have reached : key row ≤ key other := by
        have below : key row ≤ key head := (ordered row head).mp ahead
        rcases List.mem_cons.mp inside with rfl | later
        · exact below
        · exact below.trans (Prod.Lex.monotone_fst _ _ (least other later).le)
      rw [Prod.Lex.toLex_lt_toLex]
      rcases reached.lt_or_eq with less | same
      · exact .inl less
      · exact .inr ⟨same,first other inside⟩
    · rename_i behind
      have less : key head < key row := not_le.mp (fun reached => behind ((ordered row head).mpr reached))
      rw [List.pairwise_cons]
      refine ⟨?_,ih rest (fun other inside => first other (List.mem_cons_of_mem _ inside))⟩
      intro other inside
      rcases List.mem_cons.mp ((List.perm_orderedInsert before row rows).mem_iff.mp inside) with rfl | later
      · rw [Prod.Lex.toLex_lt_toLex]
        exact .inl less
      · exact least other later

theorem stable_sort [LinearOrder μ] {place : ρ → μ} (ordered : ∀ left right, before left right ↔ key left ≤ key right)
    (placed : rows.Pairwise (fun left right => place left < place right)) : (rows.insertionSort before).Pairwise
      (fun left right => toLex (key left,place left) < toLex (key right,place right)) := by
  induction rows with
  | nil => simp
  | cons row rows ih =>
    obtain ⟨first,rest⟩ := List.pairwise_cons.mp placed
    rw [List.insertionSort_cons]
    apply stable_insert ordered (ih rest)
    intro other inside
    exact first other ((List.perm_insertionSort before rows).mem_iff.mp inside)

/- Sorting by a key that rows may share. -/

theorem sorted_weak (ordered : ∀ left right, before left right ↔ key left ≤ key right) (rows : List ρ) :
    (rows.insertionSort before).Pairwise (fun left right => key left ≤ key right) := by
  have : Std.Total before := ⟨fun left right => by rw [ordered,ordered]; exact le_total _ _⟩
  have : IsTrans ρ before := ⟨fun left middle right => by rw [ordered,ordered,ordered]; exact le_trans⟩
  exact (List.pairwise_insertionSort before rows).imp (fun earlier => (ordered _ _).mp earlier)

theorem insert_ahead (ahead : ∀ other ∈ rows, before row other) : rows.orderedInsert before row = row :: rows := by
  cases rows with
  | nil => rfl
  | cons head rows => exact List.orderedInsert_cons_of_le before rows (ahead head List.mem_cons_self)

-- Selecting after the insertion is inserting into the selection.
theorem filter_insert (ordered : ∀ left right, before left right ↔ key left ≤ key right) (selects : ρ → Bool) (row : ρ)
    (sorted : rows.Pairwise (fun left right => key left ≤ key right)) : (rows.orderedInsert before row).filter selects =
      if selects row then (rows.filter selects).orderedInsert before row else rows.filter selects := by
  induction rows with
  | nil => by_cases chosen : selects row = true <;> simp [chosen]
  | cons head rows ih =>
    obtain ⟨least,rest⟩ := List.pairwise_cons.mp sorted
    rw [List.orderedInsert_cons]
    split
    · rename_i early
      have ahead : ∀ other ∈ (head :: rows).filter selects, before row other := by
        intro other inside
        have reached := (ordered row head).mp early
        rcases List.mem_cons.mp (List.mem_filter.mp inside).1 with rfl | later
        · exact early
        · exact (ordered row other).mpr (reached.trans (least other later))
      rw [List.filter_cons,insert_ahead ahead]
    · rename_i late
      rw [List.filter_cons,List.filter_cons,ih rest]
      by_cases chosen : selects row = true <;> by_cases kept : selects head = true <;> simp [chosen,kept,late]

theorem filter_sort (ordered : ∀ left right, before left right ↔ key left ≤ key right) (selects : ρ → Bool) (rows : List ρ) :
    (rows.insertionSort before).filter selects = (rows.filter selects).insertionSort before := by
  induction rows with
  | nil => rfl
  | cons row rows ih =>
    rw [List.insertionSort_cons,filter_insert ordered selects row (sorted_weak ordered rows),ih,List.filter_cons]
    by_cases chosen : selects row = true <;> simp [chosen]

-- Of its ties the row that came first stands at its rank.
theorem insert_at_rank (ordered : ∀ left right, before left right ↔ key left ≤ key right) (row : ρ)
    (sorted : rows.Pairwise (fun left right => key left ≤ key right)) :
    (rows.orderedInsert before row)[rank key rows row]? = some row := by
  induction rows with
  | nil => simp [rank]
  | cons head rows ih =>
    obtain ⟨least,rest⟩ := List.pairwise_cons.mp sorted
    rw [List.orderedInsert_cons]
    split
    · rename_i early
      have reached := (ordered row head).mp early
      have none' : rank key (head :: rows) row = 0 := by
        apply List.countP_eq_zero.mpr
        intro other inside
        have above : key row ≤ key other := by
          rcases List.mem_cons.mp inside with rfl | later
          · exact reached
          · exact reached.trans (least other later)
        simpa using above
      simp [none']
    · rename_i late
      have less : key head < key row := not_le.mp (fun reached => late ((ordered row head).mpr reached))
      have one : rank key (head :: rows) row = rank key rows row + 1 := by simp [rank,less]
      rw [one,List.getElem?_cons_succ]
      exact ih rest

theorem first_at_rank (ordered : ∀ left right, before left right ↔ key left ≤ key right) (row : ρ) (rows : List ρ) :
    ((row :: rows).insertionSort before)[rank key (row :: rows) row]? = some row := by
  have same : rank key (row :: rows) row = rank key (rows.insertionSort before) row := by
    rw [rank_perm (List.perm_insertionSort before rows)]
    simp [rank]
  rw [same,List.insertionSort_cons]
  exact insert_at_rank ordered row (sorted_weak ordered rows)

omit [DecidableRel before] in
-- Without ties among the first rows, every sorted order begins with the same ones.
theorem take_unique (leftSorted : left.Pairwise (fun one other => key one ≤ key other))
    (rightSorted : right.Pairwise (fun one other => key one ≤ key other)) (perm : left.Perm right)
    (untied : ∀ one ∈ left, ∀ other ∈ left, key one = key other → rank key left one < count → one = other) :
    left.take count = right.take count := by
  induction count generalizing left right with
  | zero => simp
  | succ count ih =>
    cases left with
    | nil => rw [List.nil_perm.mp perm]
    | cons head rest =>
      cases right with
      | nil => exact absurd perm.length_eq (by simp)
      | cons first others =>
        obtain ⟨least,restSorted⟩ := List.pairwise_cons.mp leftSorted
        obtain ⟨lowest,othersSorted⟩ := List.pairwise_cons.mp rightSorted
        have listed : first ∈ head :: rest := perm.mem_iff.mpr List.mem_cons_self
        have placed : head ∈ first :: others := perm.mem_iff.mp List.mem_cons_self
        have below : key head ≤ key first := by
          rcases List.mem_cons.mp listed with rfl | later
          · exact le_rfl
          · exact least first later
        have beneath : key first ≤ key head := by
          rcases List.mem_cons.mp placed with rfl | later
          · exact le_rfl
          · exact lowest head later
        have leading : rank key (head :: rest) head = 0 := by
          apply List.countP_eq_zero.mpr
          intro other inside
          have above : key head ≤ key other := by
            rcases List.mem_cons.mp inside with rfl | later
            · exact le_rfl
            · exact least other later
          simpa using above
        have same : head = first := untied head List.mem_cons_self first listed (le_antisymm below beneath) (by omega)
        subst same
        rw [List.take_succ_cons,List.take_succ_cons,ih restSorted othersSorted (List.perm_cons head |>.mp perm)]
        intro one inside other also tied low
        apply untied one (List.mem_cons_of_mem _ inside) other (List.mem_cons_of_mem _ also) tied
        have more : rank key (head :: rest) one ≤ rank key rest one + 1 := by
          unfold rank
          rw [List.countP_cons]
          split <;> omega
        omega

end OpenStock.Ranks
