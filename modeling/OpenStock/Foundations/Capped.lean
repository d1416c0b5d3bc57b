import Mathlib.Tactic
import OpenStock.Foundations.Rows

namespace OpenStock.Capped

-- A loop that appends findings one by one and returns once it has `limit` of them.
def fill (limit : Nat) (found : List α) : List α → List α × Bool
  | [] => (found,false)
  | item :: items => if limit ≤ (found ++ [item]).length then (found ++ [item],true) else fill limit (found ++ [item]) items

-- The loop over groups of findings, of each of which it looks at `limit` at most.
def scan (limit : Nat) (found : List α) : List (List α) → List α
  | [] => found
  | group :: groups =>
    match fill limit found (group.take limit) with
    | (found,true) => found
    | (found,false) => scan limit found groups

/- The same loop where writing a finding down can fail. -/

def fillEach (limit : Nat) (write : α → Except ε β) (found : List β) : List α → Except ε (List β × Bool)
  | [] => .ok (found,false)
  | item :: items => do
    let finding ← write item
    if limit ≤ (found ++ [finding]).length then .ok (found ++ [finding],true)
    else fillEach limit write (found ++ [finding]) items

def scanEach (limit : Nat) (write : α → Except ε β) (found : List β) : List (List α) → Except ε (List β)
  | [] => .ok found
  | group :: groups => do
    match ← fillEach limit write found (group.take limit) with
    | (found,true) => .ok found
    | (found,false) => scanEach limit write found groups

variable {limit : Nat} {found : List α}

theorem fill_take (room : found.length < limit) (items : List α) :
    fill limit found items = ((found ++ items).take limit,decide (limit ≤ (found ++ items).length)) := by
  induction items generalizing found with
  | nil =>
    have short : ¬ limit ≤ found.length := by omega
    rw [fill,List.append_nil,List.take_of_length_le (by omega),decide_eq_false short]
  | cons item items ih =>
    rw [fill]
    have shape : found ++ item :: items = (found ++ [item]) ++ items := by simp
    by_cases full : limit ≤ (found ++ [item]).length
    · have exactly : (found ++ [item]).length = limit := by
        simp only [List.length_append,List.length_singleton] at full ⊢
        omega
      rw [if_pos full,shape,← exactly,List.take_left]
      simp
    · rw [if_neg full,ih (by omega),shape]

-- What the loop returns are the first `limit` findings of all groups.
theorem scan_take (room : found.length < limit) (groups : List (List α)) :
    scan limit found groups = (found ++ groups.flatten).take limit := by
  induction groups generalizing found with
  | nil => rw [scan,List.flatten_nil,List.append_nil,List.take_of_length_le (by omega)]
  | cons group groups ih =>
    rw [scan,fill_take room]
    have enough : found.length + limit ≥ limit := by omega
    by_cases full : limit ≤ (found ++ group.take limit).length
    · rw [decide_eq_true full]
      simp only [List.length_append,List.length_take] at full
      have within : limit ≤ (found ++ group).length := by
        rw [List.length_append]
        omega
      rw [List.flatten_cons,← List.append_assoc,List.take_append_of_le_length within]
      simp [List.take_append,List.take_take]
    · have short : (found ++ group.take limit).length < limit := by omega
      have whole : group.take limit = group := by
        apply List.take_of_length_le
        simp only [List.length_append,List.length_take] at short
        omega
      rw [decide_eq_false full,whole,List.take_of_length_le (by rw [whole] at short; omega)]
      dsimp only
      rw [whole] at short
      rw [ih short,List.flatten_cons,List.append_assoc]

variable {write : α → Except ε β}

theorem fillEach_take {found : List β} (room : found.length < limit) (items : List α) :
    fillEach limit write found items = ((items.take (limit - found.length)).mapM write).map
      (fun more => (found ++ more,decide (limit ≤ found.length + items.length))) := by
  induction items generalizing found with
  | nil =>
    have short : ¬ limit ≤ found.length := by omega
    simp [fillEach,Except.map,short,pure,Except.pure]
  | cons item items ih =>
    obtain ⟨more,left⟩ : ∃ more, limit - found.length = more + 1 := ⟨limit - found.length - 1,by omega⟩
    rw [fillEach,left,List.take_succ_cons,List.mapM_cons]
    cases written : write item with
    | error refused => rfl
    | ok finding =>
      by_cases full : limit ≤ (found ++ [finding]).length
      · have last : more = 0 := by
          simp only [List.length_append,List.length_singleton] at full
          omega
        have reached : limit ≤ found.length + (items.length + 1) := by omega
        simp [bind,Except.bind,Except.map,pure,Except.pure,last,reached,show limit ≤ found.length + 1 by omega]
      · have room' : (found ++ [finding]).length < limit := by omega
        have rest : limit - (found ++ [finding]).length = more := by
          rw [List.length_append,List.length_singleton]
          omega
        have count : (found ++ [finding]).length + items.length = found.length + (items.length + 1) := by
          rw [List.length_append,List.length_singleton]
          omega
        simp only [bind,Except.bind]
        rw [if_neg full,ih room',rest,count]
        cases items.take more |>.mapM write with
        | error refused => rfl
        | ok findings => simp [Except.map,pure,Except.pure]

-- What is written down are the first `limit` items of all groups, up to a failure.
theorem scanEach_take {found : List β} (room : found.length < limit) (groups : List (List α)) :
    scanEach limit write found groups = ((groups.flatten.take (limit - found.length)).mapM write).map (found ++ ·) := by
  induction groups generalizing found with
  | nil => simp [scanEach,Except.map,pure,Except.pure]
  | cons group groups ih =>
    rw [scanEach,fillEach_take room,List.flatten_cons,List.take_append,List.mapM_append,List.take_take]
    rw [Nat.min_eq_left (Nat.sub_le _ _)]
    cases written : (group.take (limit - found.length)).mapM write with
    | error refused => rfl
    | ok findings =>
      have count := (Rows.each_read written).length_eq.symm
      rw [List.length_take] at count
      by_cases full : limit ≤ found.length + (group.take limit).length
      · have reached : limit ≤ found.length + min limit group.length := by
          rw [← List.length_take]
          exact full
        have none : limit - found.length - group.length = 0 := by omega
        simp [bind,Except.bind,Except.map,pure,Except.pure,reached,none]
      · rw [List.length_take] at full
        have whole : (found ++ findings).length < limit := by
          rw [List.length_append,count]
          omega
        have rest : limit - (found ++ findings).length = limit - found.length - group.length := by
          rw [List.length_append,count]
          omega
        simp only [bind,Except.bind,Except.map,decide_eq_false (show ¬ limit ≤ found.length + (group.take limit).length by
          rw [List.length_take]; exact full)]
        rw [ih whole,rest]
        cases (groups.flatten.take (limit - found.length - group.length)).mapM write with
        | error refused => rfl
        | ok more => simp [Except.map,pure,Except.pure]

theorem scan_nonempty (room : 0 < limit) (groups : List (List α)) :
    scan limit [] groups ≠ [] ↔ ∃ group ∈ groups, group ≠ [] := by
  rw [scan_take room,List.nil_append,Ne,List.take_eq_nil_iff]
  have positive : limit ≠ 0 := by omega
  simp [positive,List.flatten_eq_nil_iff]

-- Faults among harmless findings: one is among the first `limit` exactly if the harmless
-- ones up to its own column leave room.
theorem faults_seen {columns : List κ} {harmless faults : κ → List α} {fault : α → Bool}
    (clean : ∀ column, ∀ item ∈ harmless column, fault item = false) (faulty : ∀ column, ∀ item ∈ faults column, fault item = true)
    (limit : Nat) :
    (∃ item ∈ (columns.flatMap (fun column => harmless column ++ faults column)).take limit, fault item = true) ↔
      ∃ front column back, columns = front ++ column :: back ∧ faults column ≠ [] ∧
        ((front ++ [column]).map (fun column => (harmless column).length)).sum < limit := by
  induction columns generalizing limit with
  | nil => simp
  | cons column columns ih =>
    rw [List.flatMap_cons]
    cases some : faults column with
    | nil =>
      rw [List.append_nil,List.take_append]
      constructor
      · intro seen
        obtain ⟨item,inside,wrong⟩ := seen
        rcases List.mem_append.mp inside with own | later
        · have right := clean column item (List.mem_of_mem_take own)
          rw [right] at wrong
          cases wrong
        · obtain ⟨front,found,back,split,faulted,room⟩ := (ih (limit - (harmless column).length)).mp ⟨item,later,wrong⟩
          refine ⟨column :: front,found,back,by rw [split]; rfl,faulted,?_⟩
          simp only [List.cons_append,List.map_cons,List.sum_cons]
          omega
      · intro placed
        obtain ⟨front,found,back,split,faulted,room⟩ := placed
        cases front with
        | nil =>
          cases split
          exact absurd some faulted
        | cons head front =>
          cases split
          simp only [List.cons_append,List.map_cons,List.sum_cons] at room
          obtain ⟨item,later,wrong⟩ := (ih (limit - (harmless column).length)).mpr
            ⟨front,found,back,rfl,faulted,by omega⟩
          exact ⟨item,List.mem_append_right _ later,wrong⟩
    | cons first rest =>
      constructor
      · intro seen
        refine ⟨[],column,columns,rfl,by simp [some],?_⟩
        simp only [List.nil_append,List.map_cons,List.map_nil,List.sum_cons,List.sum_nil,Nat.add_zero]
        by_contra crowded
        obtain ⟨item,inside,wrong⟩ := seen
        rw [List.append_assoc,List.take_append_of_le_length (by omega)] at inside
        have right := clean column item (List.mem_of_mem_take inside)
        rw [right] at wrong
        cases wrong
      · intro placed
        obtain ⟨front,found,back,split,faulted,room⟩ := placed
        have space : (harmless column).length < limit := by
          cases front with
          | nil =>
            cases split
            simpa using room
          | cons head front =>
            cases split
            simp only [List.cons_append,List.map_cons,List.sum_cons] at room
            omega
        have wrong : fault first = true := faulty column first (by rw [some]; exact List.mem_cons_self)
        refine ⟨first,?_,wrong⟩
        rw [List.append_assoc,List.take_append]
        apply List.mem_append_right
        obtain ⟨more,enough⟩ : ∃ more, limit - (harmless column).length = more + 1 := ⟨limit - (harmless column).length - 1,by omega⟩
        rw [enough,List.cons_append,List.take_succ_cons]
        exact List.mem_cons_self

end OpenStock.Capped
