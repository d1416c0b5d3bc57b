import Mathlib.Data.Finset.Card
import Mathlib.Data.List.Nodup

namespace OpenStock.Recency

/- What a history, its latest event first, holds since the last event of a kind. -/

section Since

variable {ε κ : Type}

def since (kind : ε → Bool) (history : List ε) : List ε := history.takeWhile (fun event => !kind event)

variable {kind : ε → Bool} {event : ε} (history : List ε)

theorem since_last (last : kind event = true) : since kind (event :: history) = [] := by
  simp [since,last]

theorem since_other (other : kind event = false) : since kind (event :: history) = event :: since kind history := by
  simp [since,other]

-- An event seen since the last one of a kind is still seen until the next one.
theorem since_kept {event seen : ε} {history : List ε} (inside : seen ∈ since kind history)
    (other : kind event = false) : seen ∈ since kind (event :: history) := by
  rw [since_other history other]
  exact List.mem_cons_of_mem _ inside

-- Two kinds are equally old when no event of the wider one has happened since the narrower one.
theorem since_same {history : List ε} (covers : ∀ event, narrow event = true → wide event = true)
    (unseen : ∀ event ∈ since narrow history, wide event = false) : since wide history = since narrow history := by
  induction history with
  | nil => rfl
  | cons event history ih =>
    cases kind : narrow event with
    | true => rw [since_last history kind,since_last history (covers event kind)]
    | false =>
      rw [since_other history kind] at unseen ⊢
      rw [since_other history (unseen event List.mem_cons_self),ih (fun seen inside => unseen seen (List.mem_cons_of_mem _ inside))]

variable [DecidableEq κ]

-- The names met in a history.
def named (name : ε → Option κ) (history : List ε) : Finset κ := (history.filterMap name).toFinset

variable {name : ε → Option κ}

theorem mem_named {history : List ε} : key ∈ named name history ↔ ∃ event ∈ history, name event = some key := by
  simp [named]

theorem named_grows (name : ε → Option κ) (event : ε) (history : List ε) :
    named name history ⊆ named name (event :: history) := by
  intro key inside
  obtain ⟨seen,older,same⟩ := mem_named.mp inside
  exact mem_named.mpr ⟨seen,List.mem_cons_of_mem _ older,same⟩

-- Different names, all of them met, are no more than the names met.
theorem named_bound {history : List ε} {keys : List κ} (distinct : keys.Nodup)
    (met : ∀ key ∈ keys, key ∈ named name history) : keys.length ≤ (named name history).card := by
  rw [← List.toFinset_card_of_nodup distinct]
  apply Finset.card_le_card
  intro key inside
  exact met key (List.mem_toFinset.mp inside)

end Since

/- A queue that keeps its last rows. -/

section Queue

variable {ρ : Type}

def lastOf (room : Nat) (queue : List ρ) : List ρ := queue.drop (queue.length - room)

def pushedOut (room : Nat) (queue : List ρ) : List ρ := queue.take (queue.length - room)

theorem lastOf_length (room : Nat) (queue : List ρ) : (lastOf room queue).length ≤ room := by
  simp only [lastOf,List.length_drop]
  omega

variable {room : Nat} {queue : List ρ}

theorem nothing_pushed (fits : queue.length ≤ room) : pushedOut room queue = [] := by
  simp [pushedOut,Nat.sub_eq_zero_of_le fits]

theorem mem_lastOf (distinct : queue.Nodup) : row ∈ lastOf room queue ↔ row ∈ queue ∧ row ∉ pushedOut room queue := by
  have parts : pushedOut room queue ++ lastOf room queue = queue := List.take_append_drop _ _
  constructor
  · intro kept
    refine ⟨List.mem_of_mem_drop kept,?_⟩
    intro pushed
    rw [← parts,List.nodup_append] at distinct
    exact distinct.2.2 row pushed row kept rfl
  · intro inside
    have split := inside.1
    rw [← parts,List.mem_append] at split
    exact split.resolve_left inside.2

-- The newest row stays.
theorem newest_kept (positive : 1 ≤ room) (older : List ρ) (new : ρ) : new ∈ lastOf room (older ++ [new]) := by
  have few : (older ++ [new]).length - room ≤ older.length := by
    rw [List.length_append,List.length_singleton]
    omega
  rw [lastOf,List.drop_append_of_le_length few]
  exact List.mem_append_right _ (List.mem_singleton_self new)

-- Behind a row that is pushed out the queue is full of later ones.
theorem behind_pushed (ordered : queue.Pairwise later) (pushed : row ∈ pushedOut room queue) :
    (lastOf room queue).length = room ∧ ∀ other ∈ lastOf room queue, later row other := by
  have beyond : room < queue.length := by
    by_contra fits
    rw [nothing_pushed (Nat.le_of_not_lt fits)] at pushed
    cases pushed
  refine ⟨by simp only [lastOf,List.length_drop]; omega,?_⟩
  have parts : pushedOut room queue ++ lastOf room queue = queue := List.take_append_drop _ _
  rw [← parts,List.pairwise_append] at ordered
  exact ordered.2.2 row pushed

end Queue
end OpenStock.Recency
