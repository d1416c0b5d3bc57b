import Mathlib.Order.Basic
import Mathlib.Tactic

namespace OpenStock.Stretches

/- The stretches of marked rows of an ordered list, each by its first and last row. -/

variable {α : Type} [LinearOrder α] {marked : α → Bool} {rows : List α}

-- An open stretch with the stretches of the rows after it.
def continued (start previous : α) (rows : List α) : List (α × α) → List (α × α)
  | [] => [(start,previous)]
  | first :: rest => if rows.head? = some first.1 then (start,first.2) :: rest else (start,previous) :: first :: rest

def stretches (marked : α → Bool) : List α → List (α × α)
  | [] => []
  | row :: rows => if marked row then continued row row rows (stretches marked rows) else stretches marked rows

-- The stretches cover the marked rows and no others, and an unmarked row stands
-- between any two.
structure Exact (marked : α → Bool) (rows : List α) (ranges : List (α × α)) : Prop where
  apart : ranges.Pairwise (fun left right => ∃ row ∈ rows, marked row = false ∧ left.2 < row ∧ row < right.1)
  ends : ∀ range ∈ ranges, range.1 ∈ rows ∧ range.2 ∈ rows ∧ range.1 ≤ range.2
  covers : ∀ row ∈ rows, marked row = true ↔ ∃ range ∈ ranges, range.1 ≤ row ∧ row ≤ range.2

variable {ranges : List (α × α)} {range : α × α}

theorem Exact.marked_ends (exact : Exact marked rows ranges) (member : range ∈ ranges) : marked range.1 = true := by
  obtain ⟨inside,_,order⟩ := exact.ends range member
  exact (exact.covers range.1 inside).mpr ⟨range,member,le_refl _,order⟩

-- The head of an ordered list is the least of it.
theorem head_least (ordered : rows.Pairwise (· < ·)) (first : rows.head? = some head) : ∀ row ∈ rows, head ≤ row := by
  intro row member
  cases rows with
  | nil => cases member
  | cons start rows =>
    cases first
    obtain rfl | later := List.mem_cons.mp member
    · exact le_refl _
    · exact ((List.pairwise_cons.mp ordered).1 row later).le

variable {row : α}

-- An unmarked row in front changes nothing.
theorem exact_unmarked (before : ∀ other ∈ rows, row < other) (plain : marked row = false)
    (exact : Exact marked rows ranges) : Exact marked (row :: rows) ranges where
  apart := exact.apart.imp (fun ⟨between,member,rest⟩ => ⟨between,List.mem_cons_of_mem _ member,rest⟩)
  ends range member := by
    obtain ⟨start,final,order⟩ := exact.ends range member
    exact ⟨List.mem_cons_of_mem _ start,List.mem_cons_of_mem _ final,order⟩
  covers other member := by
    obtain rfl | later := List.mem_cons.mp member
    · rw [plain]
      refine ⟨fun impossible => (by cases impossible),fun ⟨range,within,start,_⟩ => ?_⟩
      exact absurd start (not_le.mpr (before _ (exact.ends range within).1))
    · exact exact.covers other later

variable {rest : List (α × α)} {first : α × α}

-- A marked row just before the first stretch makes it longer.
theorem exact_joined (before : ∀ other ∈ rows, row < other) (given : marked row = true)
    (least : ∀ other ∈ rows, first.1 ≤ other) (exact : Exact marked rows (first :: rest)) :
    Exact marked (row :: rows) ((row,first.2) :: rest) where
  apart := by
    obtain ⟨leads,later⟩ := List.pairwise_cons.mp exact.apart
    refine List.pairwise_cons.mpr ⟨fun range member => ?_,later.imp (fun ⟨between,inside,order⟩ => ⟨between,List.mem_cons_of_mem _ inside,order⟩)⟩
    obtain ⟨between,inside,order⟩ := leads range member
    exact ⟨between,List.mem_cons_of_mem _ inside,order⟩
  ends range member := by
    obtain rfl | later := List.mem_cons.mp member
    · obtain ⟨_,final,_⟩ := exact.ends first (List.mem_cons_self ..)
      exact ⟨List.mem_cons_self ..,List.mem_cons_of_mem _ final,(before _ final).le⟩
    · obtain ⟨start,final,order⟩ := exact.ends range (List.mem_cons_of_mem _ later)
      exact ⟨List.mem_cons_of_mem _ start,List.mem_cons_of_mem _ final,order⟩
  covers other member := by
    obtain rfl | later := List.mem_cons.mp member
    · obtain ⟨_,final,_⟩ := exact.ends first (List.mem_cons_self ..)
      exact ⟨fun _ => ⟨_,List.mem_cons_self ..,le_refl _,(before _ final).le⟩,fun _ => given⟩
    · rw [exact.covers other later]
      constructor
      · intro ⟨range,within,start,final⟩
        obtain rfl | inside := List.mem_cons.mp within
        · exact ⟨_,List.mem_cons_self ..,(before other later).le,final⟩
        · exact ⟨range,List.mem_cons_of_mem _ inside,start,final⟩
      · intro ⟨range,within,start,final⟩
        obtain rfl | inside := List.mem_cons.mp within
        · exact ⟨first,List.mem_cons_self ..,least other later,final⟩
        · exact ⟨range,List.mem_cons_of_mem _ inside,start,final⟩

-- A marked row behind which an unmarked one comes is a stretch of its own.
theorem exact_alone (before : ∀ other ∈ rows, row < other) (given : marked row = true)
    (gap : ∀ range ∈ ranges, ∃ between ∈ rows, marked between = false ∧ between < range.1) (exact : Exact marked rows ranges) :
    Exact marked (row :: rows) ((row,row) :: ranges) where
  apart := by
    refine List.pairwise_cons.mpr ⟨fun range member => ?_,exact.apart.imp (fun ⟨between,inside,order⟩ => ⟨between,List.mem_cons_of_mem _ inside,order⟩)⟩
    obtain ⟨between,inside,plain,order⟩ := gap range member
    exact ⟨between,List.mem_cons_of_mem _ inside,plain,before between inside,order⟩
  ends range member := by
    obtain rfl | later := List.mem_cons.mp member
    · exact ⟨List.mem_cons_self ..,List.mem_cons_self ..,le_refl _⟩
    · obtain ⟨start,final,order⟩ := exact.ends range later
      exact ⟨List.mem_cons_of_mem _ start,List.mem_cons_of_mem _ final,order⟩
  covers other member := by
    obtain rfl | later := List.mem_cons.mp member
    · exact ⟨fun _ => ⟨_,List.mem_cons_self ..,le_refl _,le_refl _⟩,fun _ => given⟩
    · rw [exact.covers other later]
      constructor
      · intro ⟨range,within,order⟩
        exact ⟨range,List.mem_cons_of_mem _ within,order⟩
      · intro ⟨range,within,start,final⟩
        obtain rfl | inside := List.mem_cons.mp within
        · exact absurd final (not_le.mpr (before other later))
        · exact ⟨range,inside,start,final⟩

-- Where the head of the rows does not begin the first stretch it is unmarked.
theorem head_unmarked (ordered : rows.Pairwise (· < ·)) (start : rows.head? = some head)
    (differs : head ≠ first.1) (exact : Exact marked rows (first :: rest)) : marked head = false := by
  have least := head_least ordered start
  have inside : head ∈ rows := List.mem_of_head? start
  by_contra given
  obtain ⟨range,within,low,_⟩ := (exact.covers head inside).mp (by simpa using given)
  have same : range.1 = head := le_antisymm low (least _ (exact.ends range within).1)
  obtain rfl | later := List.mem_cons.mp within
  · exact differs same.symm
  · obtain ⟨between,_,_,above,below⟩ := (List.pairwise_cons.mp exact.apart).1 range later
    rw [same] at below
    exact absurd (above.trans below) (not_lt.mpr (least _ (exact.ends first (List.mem_cons_self ..)).2.1))

theorem stretches_exact (marked : α → Bool) (rows : List α) (ordered : rows.Pairwise (· < ·)) : Exact marked rows (stretches marked rows) := by
  induction rows with
  | nil => exact ⟨List.Pairwise.nil,fun _ member => (by cases member),fun _ member => (by cases member)⟩
  | cons row rows later =>
    obtain ⟨before,rest⟩ := List.pairwise_cons.mp ordered
    have exact := later rest
    cases given : marked row with
    | false =>
      simp only [stretches,given,Bool.false_eq_true,if_false]
      exact exact_unmarked before given exact
    | true =>
      simp only [stretches,given,if_true]
      cases found : stretches marked rows with
      | nil =>
        rw [found] at exact
        exact exact_alone before given (fun _ member => by cases member) exact
      | cons first others =>
        rw [found] at exact
        simp only [continued]
        split
        next joined => exact exact_joined before given (head_least rest joined) exact
        next parted =>
          refine exact_alone before given (fun range member => ?_) exact
          obtain ⟨head,start⟩ : ∃ head, rows.head? = some head := by
            cases rows with
            | nil => cases (exact.ends first (List.mem_cons_self ..)).1
            | cons head _ => exact ⟨head,rfl⟩
          have differs : head ≠ first.1 := fun same => parted (same ▸ start)
          have plain := head_unmarked rest start differs exact
          have inside : head ∈ rows := List.mem_of_head? start
          refine ⟨head,inside,plain,lt_of_le_of_ne (head_least rest start _ (exact.ends range member).1) (fun same => ?_)⟩
          have mark := exact.marked_ends member
          rw [← same,plain] at mark
          cases mark

theorem stretches_start (ordered : rows.Pairwise (· < ·)) (member : range ∈ stretches marked rows) : range.1 ∈ rows :=
  ((stretches_exact marked rows ordered).ends range member).1

end OpenStock.Stretches
