import Mathlib.Data.List.Perm.Basic
import Mathlib.Data.List.Nodup
import Mathlib.Data.List.Sort
import Mathlib.Data.List.Induction

namespace OpenStock.Rows

-- A table is a list of rows in insertion order, with a key no two rows share.
variable {key : ρ → κ} {rows : List ρ}

def Distinct (key : ρ → κ) (rows : List ρ) : Prop := (rows.map key).Nodup

-- `UPDATE ... SET edit WHERE selects`
def updateWhere (selects : ρ → Bool) (edit : ρ → ρ) (rows : List ρ) : List ρ :=
  rows.map (fun row => if selects row then edit row else row)

variable {edit : ρ → ρ}

-- A lookup that no edit can mislead finds the same row, edited.
theorem find_updateWhere {test selects : ρ → Bool} (kept : ∀ row, test (edit row) = test row) :
    (updateWhere selects edit rows).find? test = (rows.find? test).map (fun row => if selects row then edit row else row) := by
  have through : (test ∘ fun row => if selects row then edit row else row) = test := by
    funext row
    by_cases met : selects row = true <;> simp [met,kept]
  rw [updateWhere,List.find?_map,through]

variable {selects : ρ → Bool}

-- Two updates of the same rows are one.
theorem updateWhere_twice (kept : ∀ row, selects (first row) = selects row) :
    updateWhere selects second (updateWhere selects first rows) = updateWhere selects (second ∘ first) rows := by
  simp only [updateWhere,List.map_map]
  apply List.map_congr_left
  intro row _
  by_cases met : selects row = true <;> simp [met,kept]

theorem updateWhere_id : updateWhere selects id rows = rows := by
  simp [updateWhere]

-- An update of rows that are not selected before or after it.
theorem filter_updateWhere {test selects : ρ → Bool}
    (apart : ∀ row ∈ rows, selects row = true → test row = false ∧ test (edit row) = false) :
    (updateWhere selects edit rows).filter test = rows.filter test := by
  induction rows with
  | nil => rfl
  | cons head rows ih =>
    have rest := ih (fun row inside => apart row (List.mem_cons_of_mem _ inside))
    have shape : updateWhere selects edit (head :: rows) =
        (if selects head then edit head else head) :: updateWhere selects edit rows := rfl
    rw [shape,List.filter_cons,List.filter_cons,rest]
    by_cases met : selects head = true
    · obtain ⟨before,after⟩ := apart head List.mem_cons_self met
      simp [met,before,after]
    · simp [met]

theorem updateWhere_distinct (kept : ∀ row, key (edit row) = key row)
    (distinct : Distinct key rows) : Distinct key (updateWhere selects edit rows) := by
  have keys : (updateWhere selects edit rows).map key = rows.map key := by
    rw [updateWhere,List.map_map]
    apply List.map_congr_left
    intro row _
    by_cases met : selects row = true <;> simp [met,kept]
  rw [Distinct,keys]
  exact distinct

theorem same_row (distinct : Distinct key rows) (left : first ∈ rows) (right : second ∈ rows)
    (same : key first = key second) : first = second :=
  List.inj_on_of_nodup_map distinct left right same

theorem append_distinct (distinct : Distinct key rows) (fresh : ∀ row ∈ rows, key row ≠ key new) :
    Distinct key (rows ++ [new]) := by
  unfold Distinct
  rw [List.map_append,List.nodup_append]
  refine ⟨distinct,by simp,?_⟩
  intro left inside right single same
  obtain ⟨row,member,rfl⟩ := List.mem_map.mp inside
  rw [List.map_singleton,List.mem_singleton] at single
  exact fresh row member (same.trans single)

theorem select_key [BEq κ] [LawfulBEq κ] (distinct : Distinct key rows) (present : row ∈ rows) :
    rows.find? (fun other => key other == key row) = some row := by
  induction rows with
  | nil => cases present
  | cons head rows ih =>
    obtain ⟨fresh,rest⟩ := List.nodup_cons.mp distinct
    rcases List.mem_cons.mp present with rfl | later
    · simp
    · have differs : key head ≠ key row := fun same => fresh (same ▸ List.mem_map_of_mem later)
      simp [differs,ih rest later]

-- `ORDER BY ... LIMIT 1`: the first row that no other comes before; of equals
-- the one inserted earlier.
def better (before : ρ → ρ → Bool) : Option ρ → ρ → Option ρ
  | none,row => some row
  | some best,row => if before row best then some row else some best

def firstBy (before : ρ → ρ → Bool) (rows : List ρ) : Option ρ := rows.foldl (better before) none

theorem better_cases (before : ρ → ρ → Bool) (best : Option ρ) (row : ρ) :
    better before best row = best ∨ better before best row = some row := by
  cases best with
  | none => exact .inr rfl
  | some best =>
    by_cases earlier : before row best = true
    · exact .inr (if_pos earlier)
    · exact .inl (if_neg earlier)

theorem firstBy_scan (before : ρ → ρ → Bool) (rows : List ρ) (best : Option ρ) :
    rows.foldl (better before) best = best ∨ ∃ row ∈ rows, rows.foldl (better before) best = some row := by
  induction rows generalizing best with
  | nil => exact .inl rfl
  | cons head rows ih =>
    rw [List.foldl_cons]
    rcases ih (better before best head) with kept | ⟨row,inside,found⟩
    · rcases better_cases before best head with same | now
      · exact .inl (kept.trans same)
      · exact .inr ⟨head,List.mem_cons_self,kept.trans now⟩
    · exact .inr ⟨row,List.mem_cons_of_mem _ inside,found⟩

theorem firstBy_mem (chosen : firstBy before rows = some first) : first ∈ rows := by
  rcases firstBy_scan before rows none with none | ⟨row,inside,found⟩
  · rw [firstBy,none] at chosen
    cases chosen
  · rw [firstBy,found] at chosen
    cases chosen
    exact inside

theorem firstBy_append (before : ρ → ρ → Bool) (rows : List ρ) (row : ρ) :
    firstBy before (rows ++ [row]) = better before (firstBy before rows) row := by
  rw [firstBy,List.foldl_append]
  rfl

-- A row that comes before all others is first wherever it stands.
theorem firstBy_leader (leads : ∀ other ∈ rows, before row other = true) : firstBy before (rows ++ [row]) = some row := by
  rw [firstBy_append]
  cases chosen : firstBy before rows with
  | none => rfl
  | some best => simp [better,leads best (firstBy_mem chosen)]

theorem firstBy_none (absent : firstBy before rows = none) : rows = [] := by
  cases rows with
  | nil => rfl
  | cons head rows =>
    rw [firstBy,List.foldl_cons] at absent
    rcases firstBy_scan before rows (some head) with kept | ⟨row,_,found⟩
    · cases kept.symm.trans absent
    · cases found.symm.trans absent

theorem firstBy_least (trans : ∀ one two three, before one two = true → before two three = true → before one three = true)
    (irrefl : ∀ row, before row row = false) (chosen : firstBy before rows = some first) :
    ∀ other ∈ rows, before other first = false := by
  induction rows using List.reverseRecOn generalizing first with
  | nil => cases chosen
  | append_singleton rows row ih =>
    rw [firstBy_append] at chosen
    cases earlier : firstBy before rows with
    | none =>
      rw [earlier] at chosen
      cases chosen
      simpa [firstBy_none earlier] using irrefl row
    | some best =>
      have least := ih earlier
      rw [earlier,better] at chosen
      intro other inside
      split at chosen <;> cases chosen
      · rename_i sooner
        rcases List.mem_append.mp inside with old | new
        · exact Bool.eq_false_iff.mpr (fun ahead => Bool.eq_false_iff.mp (least other old) (trans _ _ _ ahead sooner))
        · exact List.mem_singleton.mp new ▸ irrefl _
      · rename_i later
        rcases List.mem_append.mp inside with old | new
        · exact least other old
        · exact List.mem_singleton.mp new ▸ Bool.eq_false_iff.mpr later

/- `ORDER BY` on a key that no two rows share. -/

section ordered
variable {before broad : ρ → ρ → Prop} [DecidableRel before] [DecidableRel broad]
variable [IsTrans ρ before] [Std.Total before] [IsTrans ρ broad] [Std.Total broad]

-- Selecting from a table sorted by more columns is sorting the selection.
theorem filter_ordered {selects : ρ → Bool}
    (finer : ∀ left ∈ rows.filter selects, ∀ right ∈ rows.filter selects, broad left right → before left right)
    (keyed : ∀ left ∈ rows.filter selects, ∀ right ∈ rows.filter selects,
      before left right → before right left → left = right) :
    (rows.insertionSort broad).filter selects = (rows.filter selects).insertionSort before := by
  have selected : ((rows.insertionSort broad).filter selects).Perm (rows.filter selects) :=
    (List.perm_insertionSort broad rows).filter selects
  apply List.Perm.eq_of_pairwise
  · intro left right inside listed forth back
    exact keyed left (selected.mem_iff.mp inside) right ((List.mem_insertionSort before).mp listed) forth back
  · have sorted := (List.pairwise_insertionSort broad rows).filter selects
    refine sorted.imp_of_mem ?_
    intro left right inside listed
    exact finer left (selected.mem_iff.mp inside) right (selected.mem_iff.mp listed)
  · exact List.pairwise_insertionSort before _
  · exact selected.trans (List.perm_insertionSort before _).symm

theorem first_ordered (keyed : ∀ left ∈ rows, ∀ right ∈ rows, before left right → before right left → left = right) :
    (rows.insertionSort before).head? = some first ↔ first ∈ rows ∧ ∀ row ∈ rows, before first row := by
  have sorted := List.pairwise_insertionSort before rows
  have members : ∀ row, row ∈ rows.insertionSort before ↔ row ∈ rows := fun row => List.mem_insertionSort before
  cases shape : rows.insertionSort before with
  | nil =>
    rw [shape] at members
    constructor
    · intro impossible
      cases impossible
    · rintro ⟨inside,_⟩
      cases (members first).mpr inside
  | cons head rest =>
    rw [shape] at sorted members
    obtain ⟨leads,_⟩ := List.pairwise_cons.mp sorted
    have present : head ∈ rows := (members head).mp List.mem_cons_self
    have least : ∀ row ∈ rows, before head row := by
      intro row inside
      rcases List.mem_cons.mp ((members row).mpr inside) with rfl | later
      · exact (Std.Total.total (r := before) row row).elim id id
      · exact leads row later
    rw [List.head?_cons,Option.some.injEq]
    constructor
    · rintro rfl
      exact ⟨present,least⟩
    · rintro ⟨inside,leader⟩
      exact keyed head present first inside (least first inside) (leader head present)

end ordered

-- Where a test picks a front part of the rows, its count tells which they are.
theorem counted_front (front : rows.Pairwise (fun earlier later => test later = true → test earlier = true))
    (placed : rows[place]? = some row) : place < rows.countP test ↔ test row = true := by
  induction rows generalizing place with
  | nil => simp at placed
  | cons head rows ih =>
    obtain ⟨leads,rest⟩ := List.pairwise_cons.mp front
    by_cases picked : test head = true
    · rw [List.countP_cons_of_pos picked]
      cases place with
      | zero =>
        cases placed
        simp [picked]
      | succ place => rw [Nat.succ_lt_succ_iff,ih rest placed]
    · have none : ∀ later ∈ rows, ¬ test later = true := fun later inside met => picked (leads later inside met)
      have missed : ¬ test row = true := by
        rcases List.mem_cons.mp (List.mem_of_getElem? placed) with rfl | later
        · exact picked
        · exact none row later
      rw [List.countP_eq_zero.mpr (by simpa [picked] using none)]
      simp [missed]

/- A nullable column read over all rows. -/

variable {column : ρ → Option κ}

theorem column_none : rows.mapM column = none ↔ ∃ row ∈ rows, column row = none := by
  induction rows with
  | nil => simp
  | cons head rows ih =>
    cases first : column head with
    | none => simp [List.mapM_cons,first]
    | some one => cases rest : rows.mapM column <;> simpa [List.mapM_cons,first,rest] using ih

theorem column_some {values : List κ} (read : rows.mapM column = some values) : rows.map column = values.map some := by
  induction rows generalizing values with
  | nil =>
    cases read
    rfl
  | cons head rows ih =>
    rw [List.mapM_cons] at read
    obtain ⟨first,one,read⟩ := Option.bind_eq_some_iff.mp read
    obtain ⟨rest,others,read⟩ := Option.bind_eq_some_iff.mp read
    cases read
    rw [List.map_cons,List.map_cons,one,ih others]

theorem column_congr {column other : ρ → Option κ} (same : ∀ row ∈ rows, column row = other row) :
    rows.mapM column = rows.mapM other := by
  induction rows with
  | nil => rfl
  | cons head rows ih =>
    rw [List.mapM_cons,List.mapM_cons,same head List.mem_cons_self,ih (fun row member => same row (List.mem_cons_of_mem _ member))]

variable {read : ρ → Except ε σ} {values : List σ}

-- Rows read one by one, each with its own refusal.
theorem each_read (all : rows.mapM read = .ok values) : List.Forall₂ (fun row value => read row = .ok value) rows values := by
  induction rows generalizing values with
  | nil =>
    cases all
    exact .nil
  | cons head rows ih =>
    rw [List.mapM_cons] at all
    cases first : read head with
    | error refused => simp [first,bind,Except.bind] at all
    | ok one =>
      cases rest : rows.mapM read with
      | error refused => simp [first,rest,bind,Except.bind] at all
      | ok others =>
        rw [first,rest] at all
        cases all
        exact .cons first (ih rest)

theorem each_value (all : rows.mapM read = .ok values) : ∀ row ∈ rows, ∃ value ∈ values, read row = .ok value := by
  intro row member
  obtain ⟨position,bound,rfl⟩ := List.mem_iff_getElem.mp member
  have paired := each_read all
  have within : position < values.length := by
    rw [← paired.length_eq]
    exact bound
  exact ⟨values[position],List.getElem_mem within,List.Forall₂.get paired bound within⟩

theorem each_map (fine : ∀ row ∈ rows, read row = .ok (value row)) : rows.mapM read = .ok (rows.map value) := by
  induction rows with
  | nil => rfl
  | cons head rows ih =>
    rw [List.mapM_cons,fine head List.mem_cons_self,ih (fun row member => fine row (List.mem_cons_of_mem _ member))]
    rfl

theorem each_accepted : (∃ values, rows.mapM read = .ok values) ↔ ∀ row ∈ rows, ∃ value, read row = .ok value := by
  induction rows with
  | nil => simp [pure,Except.pure]
  | cons head rows ih =>
    rw [List.forall_mem_cons,← ih,List.mapM_cons]
    cases read head with
    | error refused => simp [bind,Except.bind]
    | ok one => cases rows.mapM read <;> simp [bind,Except.bind,pure,Except.pure]

theorem each_from (all : rows.mapM read = .ok values) : ∀ value ∈ values, ∃ row ∈ rows, read row = .ok value := by
  intro value member
  obtain ⟨position,bound,rfl⟩ := List.mem_iff_getElem.mp member
  have paired := each_read all
  have within : position < rows.length := by
    rw [paired.length_eq]
    exact bound
  exact ⟨rows[position],List.getElem_mem within,List.Forall₂.get paired within bound⟩

section keyed
variable [DecidableEq κ]

-- The row of one key replaced.
def replace (key : ρ → κ) (new : ρ) (rows : List ρ) : List ρ :=
  rows.map (fun row => if key row = key new then new else row)

theorem replace_keys (new : ρ) : (replace key new rows).map key = rows.map key := by
  unfold replace
  rw [List.map_map]
  apply List.map_congr_left
  intro row _
  by_cases same : key row = key new <;> simp [same]

theorem replace_distinct (distinct : Distinct key rows) (new : ρ) : Distinct key (replace key new rows) := by
  rw [Distinct,replace_keys]
  exact distinct

theorem mem_replace (present : old ∈ rows) (same : key old = key new) :
    row ∈ replace key new rows ↔ row = new ∨ row ∈ rows ∧ key row ≠ key new := by
  constructor
  · intro inside
    obtain ⟨source,member,rfl⟩ := List.mem_map.mp inside
    by_cases keyed : key source = key new
    · simp [keyed]
    · simp [keyed,member]
  · rintro (rfl | ⟨member,other⟩)
    · exact List.mem_map.mpr ⟨old,present,by simp [same]⟩
    · exact List.mem_map.mpr ⟨row,member,by simp [other]⟩

-- An UPDATE whose condition fixes the key touches at most the row of that key.
theorem updateWhere_key (distinct : Distinct key rows) (present : row ∈ rows)
    (keyed : ∀ other, selects other = true → key other = key row) (kept : key (edit row) = key row) :
    updateWhere selects edit rows = if selects row then replace key (edit row) rows else rows := by
  unfold updateWhere replace
  have others : ∀ other ∈ rows, key other ≠ key row → selects other = false := by
    intro other _ differs
    cases met : selects other with
    | false => rfl
    | true => exact absurd (keyed other met) differs
  by_cases met : selects row = true
  · rw [if_pos met]
    apply List.map_congr_left
    intro other member
    by_cases same : key other = key row
    · simp [same_row distinct member present same,met,kept]
    · simp [others other member same,kept,same]
  · have unmet : rows.map (fun other => if selects other then edit other else other) = rows.map id := by
      apply List.map_congr_left
      intro other member
      by_cases same : key other = key row
      · simp [same_row distinct member present same,met]
      · simp [others other member same]
    rw [if_neg met,unmet,List.map_id]

theorem countP_replace (distinct : Distinct key rows) (present : old ∈ rows) (same : key old = key new) (test : ρ → Bool) :
    (replace key new rows).countP test + (if test old then 1 else 0) = rows.countP test + if test new then 1 else 0 := by
  induction rows with
  | nil => cases present
  | cons head rows ih =>
    obtain ⟨fresh,rest⟩ := List.nodup_cons.mp distinct
    have shape : replace key new (head :: rows) =
        (if key head = key new then new else head) :: replace key new rows := rfl
    by_cases equal : key head = key new
    · have headOld : head = old := same_row distinct List.mem_cons_self present (equal.trans same.symm)
      have others : replace key new rows = rows := by
        unfold replace
        have fixed : rows.map (fun row => if key row = key new then new else row) = rows.map id := by
          apply List.map_congr_left
          intro row inside
          have differs : key row ≠ key new := fun clash => fresh (equal ▸ clash ▸ List.mem_map_of_mem inside)
          simp [differs]
        rw [fixed,List.map_id]
      rw [shape,if_pos equal,others,headOld,List.countP_cons,List.countP_cons]
      omega
    · have later : old ∈ rows := (List.mem_cons.mp present).resolve_left (fun clash => equal (clash ▸ same))
      have counted := ih rest later
      rw [shape,if_neg equal,List.countP_cons,List.countP_cons]
      omega

-- INSERT ... ON CONFLICT (key) DO UPDATE.
def upsert (key : ρ → κ) (rows : List ρ) (row : ρ) : List ρ :=
  if rows.any (fun other => key other = key row) then replace key row rows else rows ++ [row]

theorem upsert_distinct (distinct : Distinct key rows) (row : ρ) : Distinct key (upsert key rows row) := by
  unfold upsert
  split
  · exact replace_distinct distinct row
  · rename_i absent
    apply append_distinct distinct
    intro other inside same
    exact absent (List.any_eq_true.mpr ⟨other,inside,decide_eq_true same⟩)

theorem mem_upsert (inside : other ∈ upsert key rows row) : other = row ∨ other ∈ rows := by
  unfold upsert at inside
  split at inside
  · obtain ⟨source,present,rfl⟩ := List.mem_map.mp inside
    split
    · exact .inl rfl
    · exact .inr present
  · rcases List.mem_append.mp inside with earlier | latest
    · exact .inr earlier
    · exact .inl (List.mem_singleton.mp latest)

theorem mem_upsert_key (rows : List ρ) (row other : ρ) :
    other ∈ upsert key rows row ↔ other = row ∨ other ∈ rows ∧ key other ≠ key row := by
  unfold upsert
  split
  · rename_i present
    obtain ⟨old,inside,same⟩ := List.any_eq_true.mp present
    exact mem_replace inside (of_decide_eq_true same)
  · rename_i absent
    have apart : ∀ other ∈ rows, key other ≠ key row := by
      intro other inside same
      exact absent (List.any_eq_true.mpr ⟨other,inside,decide_eq_true same⟩)
    rw [List.mem_append,List.mem_singleton]
    constructor
    · rintro (earlier | latest)
      · exact .inr ⟨earlier,apart other earlier⟩
      · exact .inl latest
    · rintro (latest | ⟨earlier,_⟩)
      · exact .inr latest
      · exact .inl earlier

-- The row of a key after a row was put, removed, or kept by a test of the key.
theorem find_replace (rows : List ρ) (row : ρ) (differs : sought ≠ key row) :
    (replace key row rows).find? (fun other => key other = sought) = rows.find? (fun other => key other = sought) := by
  have through : ((fun other => decide (key other = sought)) ∘ fun other => if key other = key row then row else other) =
      fun other => decide (key other = sought) := by
    funext other
    by_cases same : key other = key row
    · simp [same,Ne.symm differs]
    · simp [same]
  rw [replace,List.find?_map,through]
  cases found : rows.find? (fun other => key other = sought) with
  | none => rfl
  | some other =>
    have keyed : key other = sought := by simpa using List.find?_some found
    simp [keyed,differs]

theorem find_upsert (rows : List ρ) (row : ρ) (sought : κ) : (upsert key rows row).find? (fun other => key other = sought) =
      if sought = key row then some row else rows.find? (fun other => key other = sought) := by
  by_cases same : sought = key row
  · rw [if_pos same]
    have present : row ∈ upsert key rows row := (mem_upsert_key rows row row).mpr (.inl rfl)
    cases found : (upsert key rows row).find? (fun other => key other = sought) with
    | none => exact absurd (List.find?_eq_none.mp found row present) (by simp [same])
    | some other =>
      have keyed : key other = sought := by simpa using List.find?_some found
      rcases (mem_upsert_key rows row other).mp (List.mem_of_find?_eq_some found) with one | ⟨_,differs⟩
      · rw [one]
      · exact absurd (keyed.trans same) differs
  · rw [if_neg same]
    unfold upsert
    split
    · exact find_replace rows row same
    · rw [List.find?_append]
      simp [Ne.symm same]

theorem find_filter_key (keep : κ → Bool) (rows : List ρ) (sought : κ) :
    (rows.filter (fun other => keep (key other))).find? (fun other => key other = sought) =
      if keep sought then rows.find? (fun other => key other = sought) else none := by
  rw [List.find?_filter]
  cases kept : keep sought with
  | true =>
    have through : (fun other => decide (keep (key other) = true ∧ decide (key other = sought) = true)) =
        fun other => decide (key other = sought) := by
      funext other
      by_cases same : key other = sought <;> simp [same,kept]
    rw [through]
    rfl
  | false =>
    apply List.find?_eq_none.mpr
    intro other _ both
    simp only [decide_eq_true_eq] at both
    rw [both.2,kept] at both
    cases both.1

variable {new : List ρ}

theorem mem_upserts (inside : other ∈ new.foldl (upsert key) rows) : other ∈ new ∨ other ∈ rows := by
  induction new generalizing rows with
  | nil => exact .inr inside
  | cons row new ih =>
    rcases ih inside with later | upserted
    · exact .inl (List.mem_cons_of_mem row later)
    · rcases mem_upsert upserted with rfl | earlier
      · exact .inl List.mem_cons_self
      · exact .inr earlier

theorem upserts_distinct (distinct : Distinct key rows) (new : List ρ) : Distinct key (new.foldl (upsert key) rows) := by
  induction new generalizing rows with
  | nil => exact distinct
  | cons row new ih => exact ih (upsert_distinct distinct row)

-- Rows of distinct keys take the place of the rows stored under these keys.
theorem mem_upserts_key (apart : Distinct key new) (rows : List ρ) (other : ρ) :
    other ∈ new.foldl (upsert key) rows ↔ other ∈ new ∨ other ∈ rows ∧ key other ∉ new.map key := by
  induction new generalizing rows with
  | nil => simp
  | cons row new ih =>
    obtain ⟨fresh,rest⟩ := List.nodup_cons.mp apart
    rw [List.foldl_cons,ih rest,mem_upsert_key,List.map_cons,List.mem_cons,List.mem_cons]
    constructor
    · rintro (later | ⟨rfl | ⟨earlier,differs⟩,absent⟩)
      · exact .inl (.inr later)
      · exact .inl (.inl rfl)
      · exact .inr ⟨earlier,not_or.mpr ⟨differs,absent⟩⟩
    · rintro ((rfl | later) | ⟨earlier,absent⟩)
      · exact .inr ⟨.inl rfl,fresh⟩
      · exact .inl later
      · exact .inr ⟨.inr ⟨earlier,fun same => absent (.inl same)⟩,fun stored => absent (.inr stored)⟩

-- An INSERT that a stored key turns away, as ON CONFLICT DO NOTHING does.
def insertNew (key : ρ → κ) (rows : List ρ) (row : ρ) : List ρ :=
  if rows.any (fun other => key other = key row) then rows else rows ++ [row]

theorem find_insertNew (rows : List ρ) (row : ρ) (sought : κ) :
    (insertNew key rows row).find? (fun other => key other = sought) =
      (rows ++ [row]).find? (fun other => key other = sought) := by
  unfold insertNew
  split
  · rename_i stored
    obtain ⟨old,inside,same⟩ := List.any_eq_true.mp stored
    by_cases wanted : key row = sought
    · cases found : rows.find? (fun other => key other = sought) with
      | some first => rw [List.find?_append,found,Option.some_or]
      | none =>
        have differs : ¬ decide (key old = sought) = true := List.find?_eq_none.mp found old inside
        exact absurd (decide_eq_true ((of_decide_eq_true same).trans wanted)) differs
    · simp [List.find?_append,wanted]
  · rfl

-- The first row of a key is the one that stays.
theorem find_insertAll (new rows : List ρ) (sought : κ) :
    (new.foldl (insertNew key) rows).find? (fun other => key other = sought) =
      (rows ++ new).find? (fun other => key other = sought) := by
  induction new generalizing rows with
  | nil => rw [List.foldl_nil,List.append_nil]
  | cons row new ih =>
    rw [List.foldl_cons,ih,List.find?_append,find_insertNew,← List.find?_append,List.append_assoc,List.singleton_append]

theorem mem_insertAll (inside : row ∈ new.foldl (insertNew key) rows) : row ∈ rows ∨ row ∈ new := by
  induction new generalizing rows with
  | nil => exact .inl inside
  | cons head new ih =>
    rcases ih inside with stored | later
    · unfold insertNew at stored
      split at stored
      · exact .inl stored
      · rcases List.mem_append.mp stored with earlier | latest
        · exact .inl earlier
        · exact .inr (List.mem_cons.mpr (.inl (List.mem_singleton.mp latest)))
    · exact .inr (List.mem_cons_of_mem head later)

-- Rows that differ from the removed key stay, in their order.
def remove (key : ρ → κ) (gone : κ) (rows : List ρ) : List ρ := rows.filter (fun row => key row ≠ gone)

theorem mem_remove : row ∈ remove key gone rows ↔ row ∈ rows ∧ key row ≠ gone := by
  simp [remove]

theorem remove_distinct (distinct : Distinct key rows) (gone : κ) : Distinct key (remove key gone rows) :=
  distinct.sublist (List.filter_sublist.map key)

theorem remove_perm (distinct : Distinct key rows) (present : row ∈ rows) : (row :: remove key (key row) rows).Perm rows := by
  induction rows with
  | nil => cases present
  | cons head rows ih =>
    obtain ⟨fresh,rest⟩ := List.nodup_cons.mp distinct
    by_cases same : key head = key row
    · have equal : head = row := same_row distinct List.mem_cons_self present same
      have others : remove key (key row) rows = rows := by
        refine List.filter_eq_self.mpr ?_
        intro other inside
        have differs : key other ≠ key row := fun equal => fresh (same ▸ equal ▸ List.mem_map_of_mem inside)
        simpa using differs
      have shape : remove key (key row) (head :: rows) = rows := by
        rw [remove,List.filter_cons_of_neg (by simpa using same)]
        exact others
      rw [shape,equal]
    · have later : row ∈ rows := (List.mem_cons.mp present).resolve_left (fun equal => same (congrArg key equal).symm)
      have shape : remove key (key row) (head :: rows) = head :: remove key (key row) rows :=
        List.filter_cons_of_pos (by simpa using same)
      rw [shape]
      exact (List.Perm.swap head row _).trans ((ih rest later).cons head)

end keyed
end OpenStock.Rows
