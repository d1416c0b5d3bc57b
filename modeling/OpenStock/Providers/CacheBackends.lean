import OpenStock.Foundations.Recency
import OpenStock.Providers.Cache

namespace OpenStock.Providers.CacheBackends
open Recency

section
variable [CacheHash]

/- Histories of a backend, the latest operation first. -/

-- `set` reads the clock for the expiry and again when it sweeps.
inductive Operation where
  | set (key : CacheHash.Digest) (value : Data) (ttl : Int) (now swept : ℚ)
  | get (key : CacheHash.Digest) (now : ℚ)
  | delete (key : CacheHash.Digest)
  | clear

def perform (maxSize : Nat) (backend : Backend) : Operation → Option Data × Backend
  | .set key value ttl now swept => (none,backend.set maxSize ⟨key,value,now + ttl⟩ swept)
  | .get key now => backend.get key now
  | .delete key => (none,backend.delete key)
  | .clear => (none,backend.clear)

def after (maxSize : Nat) (fresh : Backend) : List Operation → Backend
  | [] => fresh
  | operation :: before => (perform maxSize (after maxSize fresh before) operation).2

def memory (maxSize : Nat) (history : List Operation) : Backend := after maxSize (.memory []) history

def sqlite (maxSize : Nat) (history : List Operation) : Backend := after maxSize (.sqlite [] 0) history

def held (maxSize : Nat) (history : List Operation) : List Entry := (memory maxSize history).entries

def rows (maxSize : Nat) (history : List Operation) : List Entry := (sqlite maxSize history).entries

def Operation.sets (key : CacheHash.Digest) : Operation → Bool
  | .set stored _ _ _ _ => stored == key
  | _ => false

-- The key an operation sets or reads.
def Operation.touched : Operation → Option CacheHash.Digest
  | .set key _ _ _ _ => some key
  | .get key _ => some key
  | _ => none

def Operation.touches (key : CacheHash.Digest) (operation : Operation) : Bool := operation.touched == some key

-- What the `while` loop of `set` pops from the store.
def evicted (maxSize : Nat) (store : List Entry) : Operation → List Entry
  | .set key value ttl now _ => pushedOut maxSize (discard store key ++ [⟨key,value,now + ttl⟩])
  | _ => []

/- What a backend is to answer. -/

-- The ways in which a stored entry is lost: set anew, evicted, found expired, deleted.
def Ends (maxSize : Nat) (before : List Operation) (entry : Entry) (operation : Operation) : Prop :=
  match operation with
  | .set key _ _ _ _ => key = entry.key ∨ entry ∈ evicted maxSize (held maxSize before) operation
  | .get key now => key = entry.key ∧ entry.expiry < now
  | .delete key => key = entry.key
  | .clear => True

-- The last value set for its key, not lost since.
inductive Stands (maxSize : Nat) (entry : Entry) : List Operation → Prop
  | set (before : List Operation) (ttl : Int) (now swept : ℚ) (expiry : entry.expiry = now + ttl) :
      Stands maxSize entry (.set entry.key entry.value ttl now swept :: before)
  | kept {before : List Operation} {operation : Operation} (stood : Stands maxSize entry before)
      (lasts : ¬ Ends maxSize before entry operation) : Stands maxSize entry (operation :: before)

-- What `get` returns is the last value set, if that is not lost or expired.
def Exact (maxSize : Nat) (history : List Operation) : Prop :=
  ∀ key now value, ((memory maxSize history).get key now).1 = some value ↔
    ∃ entry, Stands maxSize entry history ∧ entry.key = key ∧ entry.value = value ∧ now ≤ entry.expiry

-- Evicted only when as many other keys as there is room for have been set or read since.
def LeastRecent (maxSize : Nat) (before : List Operation) (operation : Operation) : Prop :=
  ∀ entry ∈ evicted maxSize (held maxSize before) operation,
    maxSize ≤ (named Operation.touched (since (Operation.touches entry.key) (operation :: before))).card

def Alike (maxSize : Nat) (before : List Operation) (operation : Operation) : Prop :=
  (perform maxSize (sqlite maxSize before) operation).1 = (perform maxSize (memory maxSize before) operation).1

structure OneCache (maxSize : Nat) (history : List Operation) : Prop where
  bounded : ∀ reached, reached <:+ history → (held maxSize reached).length ≤ maxSize
  exact : ∀ reached, reached <:+ history → Exact maxSize reached
  leastRecent : ∀ operation before, operation :: before <:+ history → LeastRecent maxSize before operation
  alike : (named Operation.touched history).card ≤ maxSize →
    ∀ operation before, operation :: before <:+ history → Alike maxSize before operation

/- The memory store, operation by operation. -/

variable {maxSize : Nat} {history : List Operation}

theorem memory_form (maxSize : Nat) (history : List Operation) : memory maxSize history = .memory (held maxSize history) := by
  have formed : ∃ store, memory maxSize history = .memory store := by
    induction history with
    | nil => exact ⟨[],rfl⟩
    | cons operation before ih =>
      obtain ⟨store,form⟩ := ih
      cases operation <;> exact ⟨_,by rw [memory,after,← memory,form]; rfl⟩
  obtain ⟨store,form⟩ := formed
  rw [held,form]
  rfl

variable (key : CacheHash.Digest)

theorem held_set (value : Data) (ttl : Int) (now swept : ℚ) : held maxSize (.set key value ttl now swept :: history) =
      lastOf maxSize (discard (held maxSize history) key ++ [⟨key,value,now + ttl⟩]) := by
  rw [held,memory,after,← memory,memory_form]
  rfl

theorem held_get (now : ℚ) : held maxSize (.get key now :: history) = (looked (held maxSize history) key now).2 := by
  rw [held,memory,after,← memory,memory_form]
  rfl

theorem held_delete : held maxSize (.delete key :: history) = discard (held maxSize history) key := by
  rw [held,memory,after,← memory,memory_form]
  rfl

theorem held_clear : held maxSize (.clear :: history) = [] := by
  rw [held,memory,after,← memory,memory_form]
  rfl

/- Keyed entries. -/

variable {entries : List Entry} {key : CacheHash.Digest} {entry : Entry}

theorem discard_keeps : entry ∈ discard entries key ↔ entry ∈ entries ∧ entry.key ≠ key := by
  simp [discard]

theorem discard_sublist (entries : List Entry) (key : CacheHash.Digest) : (discard entries key).Sublist entries :=
  List.filter_sublist

theorem looked_sublist (entries : List Entry) (key : CacheHash.Digest) (now : ℚ) :
    (looked entries key now).2.Sublist entries := by
  unfold looked
  cases find entries key with
  | none => exact List.Sublist.refl _
  | some entry =>
    by_cases expired : now > entry.expiry
    · simpa [expired] using discard_sublist entries key
    · simp [expired]

theorem added_distinct (distinct : Rows.Distinct Entry.key entries) (new : Entry) :
    Rows.Distinct Entry.key (discard entries new.key ++ [new]) := by
  rw [Rows.Distinct,List.map_append,List.nodup_append]
  refine ⟨distinct.sublist ((discard_sublist _ _).map _),by simp,?_⟩
  intro older inside newest last same
  obtain ⟨entry,kept,rfl⟩ := List.mem_map.mp inside
  rw [List.map_singleton,List.mem_singleton] at last
  exact (discard_keeps.mp kept).2 (same.trans last)

theorem distinct_nodup (distinct : Rows.Distinct Entry.key entries) : entries.Nodup :=
  List.Nodup.of_map _ distinct

theorem find_iff (distinct : Rows.Distinct Entry.key entries) :
    find entries key = some entry ↔ entry ∈ entries ∧ entry.key = key := by
  constructor
  · intro found
    exact ⟨List.mem_of_find?_eq_some found,by simpa using List.find?_some found⟩
  · rintro ⟨inside,rfl⟩
    exact Rows.select_key distinct inside

-- Asking for a key drops its entry when that has expired.
theorem looked_keeps (distinct : Rows.Distinct Entry.key entries) (key : CacheHash.Digest) (now : ℚ)
    (entry : Entry) : entry ∈ (looked entries key now).2 ↔ entry ∈ entries ∧ ¬ (key = entry.key ∧ entry.expiry < now) := by
  unfold looked
  cases found : find entries key with
  | none =>
    have missing : ∀ other ∈ entries, key ≠ other.key := by
      intro other inside same
      rw [(find_iff distinct).mpr ⟨inside,same.symm⟩] at found
      cases found
    constructor
    · exact fun inside => ⟨inside,fun lost => missing entry inside lost.1⟩
    · exact And.left
  | some kept =>
    obtain ⟨inside,same⟩ := (find_iff distinct).mp found
    have only : ∀ other ∈ entries, key = other.key → other = kept := by
      intro other present named
      rw [(find_iff distinct).mpr ⟨present,named.symm⟩] at found
      exact Option.some.inj found
    by_cases expired : kept.expiry < now
    · simp only [gt_iff_lt,expired,if_true,discard_keeps]
      constructor
      · exact fun survives => ⟨survives.1,fun lost => survives.2 lost.1.symm⟩
      · refine fun survives => ⟨survives.1,fun named => survives.2 ⟨named.symm,?_⟩⟩
        rw [only entry survives.1 named.symm]
        exact expired
    · simp only [gt_iff_lt,expired,if_false]
      constructor
      · refine fun present => ⟨present,fun lost => expired ?_⟩
        rw [← only entry present lost.1]
        exact lost.2
      · exact And.left

theorem looked_answer (distinct : Rows.Distinct Entry.key entries) (key : CacheHash.Digest) (now : ℚ)
    (value : Data) : (looked entries key now).1 = some value ↔
      ∃ entry ∈ entries, entry.key = key ∧ entry.value = value ∧ now ≤ entry.expiry := by
  unfold looked
  cases found : find entries key with
  | none =>
    constructor
    · intro answer
      cases answer
    · rintro ⟨entry,inside,same,_⟩
      rw [(find_iff distinct).mpr ⟨inside,same⟩] at found
      cases found
  | some kept =>
    obtain ⟨inside,same⟩ := (find_iff distinct).mp found
    constructor
    · intro answer
      by_cases expired : now > kept.expiry
      · simp [expired] at answer
      · exact ⟨kept,inside,same,by simpa [expired] using answer,not_lt.mp expired⟩
    · rintro ⟨entry,present,named,rfl,live⟩
      rw [(find_iff distinct).mpr ⟨present,named⟩] at found
      cases found
      simp [not_lt.mpr live]

/- What the memory store holds. -/

theorem held_distinct (maxSize : Nat) (history : List Operation) : Rows.Distinct Entry.key (held maxSize history) := by
  induction history with
  | nil => exact List.nodup_nil
  | cons operation before ih =>
    cases operation with
    | set key value ttl now swept =>
      rw [held_set]
      exact (added_distinct ih ⟨key,value,now + ttl⟩).sublist ((List.drop_sublist _ _).map _)
    | get key now =>
      rw [held_get]
      exact ih.sublist ((looked_sublist _ _ _).map _)
    | delete key =>
      rw [held_delete]
      exact ih.sublist ((discard_sublist _ _).map _)
    | clear =>
      rw [held_clear]
      exact List.nodup_nil

theorem held_bounded (maxSize : Nat) (history : List Operation) : (held maxSize history).length ≤ maxSize := by
  induction history with
  | nil => exact Nat.zero_le _
  | cons operation before ih =>
    cases operation with
    | set key value ttl now swept =>
      rw [held_set]
      exact lastOf_length _ _
    | get key now =>
      rw [held_get]
      exact (looked_sublist _ _ _).length_le.trans ih
    | delete key =>
      rw [held_delete]
      exact (discard_sublist _ _).length_le.trans ih
    | clear =>
      rw [held_clear]
      exact Nat.zero_le _

-- One operation: the entry it stores is held, and of the others those it does not end.
theorem held_step (room : 1 ≤ maxSize) (operation : Operation) (before : List Operation) (entry : Entry) :
    entry ∈ held maxSize (operation :: before) ↔
      (∃ ttl now swept, operation = .set entry.key entry.value ttl now swept ∧ entry.expiry = now + ttl) ∨
        (entry ∈ held maxSize before ∧ ¬ Ends maxSize before entry operation) := by
  have distinct := held_distinct maxSize before
  cases operation with
  | set key value ttl now swept =>
    have whole := distinct_nodup (added_distinct distinct ⟨key,value,now + ttl⟩)
    rw [held_set,mem_lastOf whole,List.mem_append,discard_keeps,List.mem_singleton]
    constructor
    · rintro ⟨older | newest,spared⟩
      · exact .inr ⟨older.1,fun lost => lost.elim (fun same => older.2 same.symm) spared⟩
      · subst newest
        exact .inl ⟨ttl,now,swept,rfl,rfl⟩
    · rintro (⟨lifetime,moment,sweep,same,expiry⟩ | ⟨stored,lasts⟩)
      · injection same with sameKey sameValue sameTtl sameNow
        have newest : entry = ⟨key,value,now + ttl⟩ := by
          cases entry
          simp_all
        have kept := newest_kept room (discard (held maxSize before) key) (⟨key,value,now + ttl⟩ : Entry)
        rw [mem_lastOf whole] at kept
        rw [newest]
        exact ⟨.inr rfl,kept.2⟩
      · exact ⟨.inl ⟨stored,fun same => lasts (.inl same.symm)⟩,fun pushed => lasts (.inr pushed)⟩
  | get key now =>
    rw [held_get,looked_keeps distinct]
    simp [Ends]
  | delete key =>
    rw [held_delete,discard_keeps]
    simp [Ends,eq_comm]
  | clear =>
    rw [held_clear]
    simp [Ends]

-- The store holds what stands.
theorem held_stands (room : 1 ≤ maxSize) (history : List Operation) (entry : Entry) :
    entry ∈ held maxSize history ↔ Stands maxSize entry history := by
  induction history with
  | nil =>
    constructor
    · intro inside
      cases inside
    · intro stands
      cases stands
  | cons operation before ih =>
    rw [held_step room,ih]
    constructor
    · rintro (⟨ttl,now,swept,rfl,expiry⟩ | ⟨stood,lasts⟩)
      · exact .set before ttl now swept expiry
      · exact .kept stood lasts
    · intro stands
      cases stands with
      | set _ ttl now swept expiry => exact .inl ⟨ttl,now,swept,rfl,expiry⟩
      | kept stood lasts => exact .inr ⟨stood,lasts⟩

theorem memory_exact (room : 1 ≤ maxSize) (history : List Operation) : Exact maxSize history := by
  intro key now value
  rw [memory_form]
  have answer := looked_answer (held_distinct maxSize history) key now value
  simp only [held_stands room] at answer
  exact answer

/- The order of eviction. -/

-- Of two stored entries the one further back was set since the other was.
def SetSince (history : List Operation) (older newer : Entry) : Prop :=
  ∃ operation ∈ since (Operation.sets older.key) history, operation.sets newer.key = true

variable {operation : Operation}

theorem setSince_kept (later : SetSince history older newer)
    (other : operation.sets older.key = false) : SetSince (operation :: history) older newer := by
  obtain ⟨seen,inside,sets⟩ := later
  exact ⟨seen,since_kept inside other,sets⟩

theorem added_ordered (ordered : entries.Pairwise (SetSince history)) (key : CacheHash.Digest) (value : Data)
    (ttl : Int) (now swept : ℚ) : (discard entries key ++ [(⟨key,value,now + ttl⟩ : Entry)]).Pairwise
      (SetSince (.set key value ttl now swept :: history)) := by
  have others : ∀ entry ∈ discard entries key, Operation.sets entry.key (.set key value ttl now swept) = false := by
    intro entry kept
    simpa [Operation.sets] using (discard_keeps.mp kept).2.symm
  rw [List.pairwise_append]
  refine ⟨?_,List.pairwise_singleton _ _,?_⟩
  · apply (ordered.sublist (discard_sublist _ key)).imp_of_mem
    intro older newer kept _ later
    exact setSince_kept later (others older kept)
  · intro older kept newest last
    rw [List.mem_singleton] at last
    refine ⟨.set key value ttl now swept,?_,by simp [Operation.sets,last]⟩
    rw [since_other _ (others older kept)]
    exact List.mem_cons_self

theorem held_ordered (maxSize : Nat) (history : List Operation) : (held maxSize history).Pairwise (SetSince history) := by
  induction history with
  | nil => exact List.Pairwise.nil
  | cons operation before ih =>
    have untouched : (∀ key, operation.sets key = false) → (held maxSize before).Pairwise (SetSince (operation :: before)) := by
      intro other
      exact ih.imp (fun later => setSince_kept later (other _))
    cases operation with
    | set key value ttl now swept =>
      rw [held_set]
      exact (added_ordered ih key value ttl now swept).sublist (List.drop_sublist _ _)
    | get key now =>
      rw [held_get]
      exact (untouched fun _ => rfl).sublist (looked_sublist _ _ _)
    | delete key =>
      rw [held_delete]
      exact (untouched fun _ => rfl).sublist (discard_sublist _ _)
    | clear =>
      rw [held_clear]
      exact List.Pairwise.nil

theorem sets_touched (stored : operation.sets key = true) : operation.touched = some key := by
  cases operation with
  | set other value ttl now swept => simpa [Operation.sets,Operation.touched] using stored
  | get other now | delete other | clear => cases stored

variable {before : List Operation}

-- An evicted entry was stored, under another key than the one being set.
theorem evicted_stored (room : 1 ≤ maxSize) (pushed : entry ∈ evicted maxSize (held maxSize before) operation) :
    entry ∈ held maxSize before ∧ operation.touches entry.key = false := by
  cases operation with
  | set key value ttl now swept =>
    have whole := distinct_nodup (added_distinct (held_distinct maxSize before) ⟨key,value,now + ttl⟩)
    have newest := newest_kept room (discard (held maxSize before) key) (⟨key,value,now + ttl⟩ : Entry)
    rcases List.mem_append.mp (List.mem_of_mem_take pushed) with older | last
    · obtain ⟨stored,differs⟩ := discard_keeps.mp older
      exact ⟨stored,by simpa [Operation.touches,Operation.touched] using differs.symm⟩
    · rw [List.mem_singleton.mp last] at pushed
      exact absurd pushed ((mem_lastOf whole).mp newest).2
  | get key now | delete key | clear => cases pushed

-- As many other keys as there is room for were set since an evicted entry was.
theorem evicted_oldest (pushed : entry ∈ evicted maxSize (held maxSize before) operation) :
    maxSize ≤ (named Operation.touched (since (Operation.sets entry.key) (operation :: before))).card := by
  cases operation with
  | set key value ttl now swept =>
    have distinct := added_distinct (held_distinct maxSize before) ⟨key,value,now + ttl⟩
    obtain ⟨full,behind⟩ := behind_pushed (added_ordered (held_ordered maxSize before) key value ttl now swept) pushed
    have keys : ((lastOf maxSize (discard (held maxSize before) key ++ [⟨key,value,now + ttl⟩])).map Entry.key).Nodup :=
      distinct.sublist ((List.drop_sublist _ _).map _)
    rw [← full,← List.length_map Entry.key]
    apply named_bound keys
    intro other listed
    obtain ⟨newer,kept,rfl⟩ := List.mem_map.mp listed
    obtain ⟨seen,inside,stored⟩ := behind newer kept
    exact mem_named.mpr ⟨seen,inside,sets_touched stored⟩
  | get key now | delete key | clear => cases pushed

def ReadSince (key : CacheHash.Digest) (before : List Operation) : Prop :=
  ∃ operation ∈ since (Operation.sets key) before, operation.touches key = true

-- An entry read since it was set is evicted only when as many other keys as there is
-- room for have been set or read since that read.
def Renewed (maxSize : Nat) (before : List Operation) (operation : Operation) : Prop :=
  ∀ entry ∈ evicted maxSize (held maxSize before) operation, ReadSince entry.key before →
    maxSize ≤ (named Operation.touched (since (Operation.touches entry.key) (operation :: before))).card

theorem sets_touches (key : CacheHash.Digest) (operation : Operation) (stored : operation.sets key = true) :
    operation.touches key = true := by
  simp [Operation.touches,sets_touched stored]

theorem leastRecent_iff (room : 1 ≤ maxSize) (before : List Operation) (operation : Operation) :
    LeastRecent maxSize before operation ↔ Renewed maxSize before operation := by
  constructor
  · exact fun recent entry pushed _ => recent entry pushed
  · intro renewed entry pushed
    by_cases read : ReadSince entry.key before
    · exact renewed entry pushed read
    · obtain ⟨_,other⟩ := evicted_stored room pushed
      have quiet : operation.sets entry.key = false := by
        cases stored : operation.sets entry.key with
        | false => rfl
        | true => rw [sets_touches _ _ stored] at other; cases other
      have unread : ∀ event ∈ since (Operation.sets entry.key) (operation :: before), event.touches entry.key = false := by
        intro event inside
        rw [since_other _ quiet] at inside
        rcases List.mem_cons.mp inside with rfl | earlier
        · exact other
        · rw [← Bool.not_eq_true]
          exact fun touches => read ⟨event,earlier,touches⟩
      rw [since_same (sets_touches entry.key) unread]
      exact evicted_oldest pushed

/- The rows of the SQLite backend. -/

def Operation.isSet : Operation → Bool
  | .set _ _ _ _ _ => true
  | _ => false

def setCount (history : List Operation) : Nat := history.countP Operation.isSet

-- The moments of the sweeps since a key was last set, that set included.
def sweeps (key : CacheHash.Digest) : List Operation → List ℚ
  | [] => []
  | .set stored _ _ _ swept :: before =>
    (if (setCount before + 1) % sweepInterval = 0 then [swept] else []) ++ (if stored = key then [] else sweeps key before)
  | _ :: before => sweeps key before

theorem set_counted (maxSize : Nat) (rows : List Entry) (count : Nat) (new : Entry) (swept : ℚ) :
    ∃ stored, (Backend.sqlite rows count).set maxSize new swept = .sqlite stored (count + 1) := by
  unfold Backend.set
  by_cases sweeping : (count + 1) % sweepInterval = 0
  · exact ⟨_,if_pos sweeping⟩
  · exact ⟨_,if_neg sweeping⟩

-- Nothing is evicted from a table that is not too long.
theorem set_fits {rows : List Entry} {new : Entry} (fits : (discard rows new.key ++ [new]).length ≤ maxSize) (count : Nat) (swept : ℚ) :
    (Backend.sqlite rows count).set maxSize new swept = .sqlite
      ((discard rows new.key ++ [new]).filter (fun entry => (count + 1) % sweepInterval = 0 → swept < entry.expiry)) (count + 1) := by
  unfold Backend.set
  dsimp only
  generalize discard rows new.key ++ [new] = added at fits
  by_cases sweeping : (count + 1) % sweepInterval = 0
  · have short : (added.filter (fun entry => swept < entry.expiry)).length - maxSize = 0 :=
      Nat.sub_eq_zero_of_le ((List.length_filter_le _ added).trans fits)
    simp [sweeping,short]
  · simp [sweeping]

theorem setCount_set (key : CacheHash.Digest) (value : Data) (ttl : Int) (now swept : ℚ) :
    setCount (.set key value ttl now swept :: history) = setCount history + 1 := List.countP_cons_of_pos rfl

theorem sqlite_form (maxSize : Nat) (history : List Operation) :
    sqlite maxSize history = .sqlite (rows maxSize history) (setCount history) := by
  have formed : ∃ rows, sqlite maxSize history = .sqlite rows (setCount history) := by
    induction history with
    | nil => exact ⟨[],rfl⟩
    | cons operation before ih =>
      obtain ⟨rows,form⟩ := ih
      rw [sqlite,after,← sqlite,form]
      cases operation with
      | set key value ttl now swept =>
        obtain ⟨stored,counted⟩ := set_counted maxSize rows (setCount before) ⟨key,value,now + ttl⟩ swept
        rw [setCount_set]
        exact ⟨stored,counted⟩
      | get key now | delete key | clear => exact ⟨_,rfl⟩
  obtain ⟨rows,form⟩ := formed
  rw [CacheBackends.rows,form]
  rfl

theorem rows_set (key : CacheHash.Digest) (value : Data) (ttl : Int) (now swept : ℚ)
    (fits : (discard (rows maxSize history) key ++ [(⟨key,value,now + ttl⟩ : Entry)]).length ≤ maxSize) :
    rows maxSize (.set key value ttl now swept :: history) =
      (discard (rows maxSize history) key ++ [(⟨key,value,now + ttl⟩ : Entry)]).filter
        (fun entry => (setCount history + 1) % sweepInterval = 0 → swept < entry.expiry) := by
  have added := @set_fits _ maxSize (rows maxSize history) ⟨key,value,now + ttl⟩ fits (setCount history) swept
  rw [rows,sqlite,after,← sqlite,sqlite_form]
  exact congrArg Backend.entries added

theorem rows_get (key : CacheHash.Digest) (now : ℚ) :
    rows maxSize (.get key now :: history) = (looked (rows maxSize history) key now).2 := by
  rw [rows,sqlite,after,← sqlite,sqlite_form]
  rfl

theorem rows_delete (key : CacheHash.Digest) : rows maxSize (.delete key :: history) = discard (rows maxSize history) key := by
  rw [rows,sqlite,after,← sqlite,sqlite_form]
  rfl

theorem rows_clear : rows maxSize (.clear :: history) = [] := by
  rw [rows,sqlite,after,← sqlite,sqlite_form]
  rfl

/- Few keys: nothing is evicted, and the table lacks what a sweep took. -/

theorem stands_named (stands : Stands maxSize entry history) : entry.key ∈ named Operation.touched history := by
  induction stands with
  | set before ttl now swept _ => exact mem_named.mpr ⟨_,List.mem_cons_self,rfl⟩
  | kept _ _ ih => exact named_grows _ _ _ ih

-- A table whose keys have all been touched has room for one more set.
theorem added_fits (distinct : Rows.Distinct Entry.key entries)
    (met : ∀ entry ∈ entries, entry.key ∈ named Operation.touched history)
    (few : (named Operation.touched (.set key value ttl now swept :: history)).card ≤ maxSize) :
    (discard entries key ++ [(⟨key,value,now + ttl⟩ : Entry)]).length ≤ maxSize := by
  rw [← List.length_map Entry.key]
  apply le_trans (named_bound (added_distinct distinct ⟨key,value,now + ttl⟩) _) few
  intro other listed
  obtain ⟨entry,inside,rfl⟩ := List.mem_map.mp listed
  rcases List.mem_append.mp inside with older | newest
  · exact named_grows _ _ _ (met entry (discard_keeps.mp older).1)
  · rw [List.mem_singleton.mp newest]
    exact mem_named.mpr ⟨_,List.mem_cons_self,rfl⟩

-- Still there after every sweep since it was set.
def Unswept (history : List Operation) (entry : Entry) : Prop := ∀ moment ∈ sweeps entry.key history, moment < entry.expiry

theorem rows_held (room : 1 ≤ maxSize) (few : (named Operation.touched history).card ≤ maxSize) :
    Rows.Distinct Entry.key (rows maxSize history) ∧
      ∀ entry, entry ∈ rows maxSize history ↔ entry ∈ held maxSize history ∧ Unswept history entry := by
  induction history with
  | nil => exact ⟨List.nodup_nil,fun entry => by simp [rows,sqlite,held,memory,after,Backend.entries]⟩
  | cons operation before ih =>
    obtain ⟨distinct,same⟩ := ih ((Finset.card_le_card (named_grows _ operation before)).trans few)
    have stored := held_distinct maxSize before
    cases operation with
    | set key value ttl now swept =>
      have met : ∀ entry ∈ held maxSize before, entry.key ∈ named Operation.touched before := by
        intro entry inside
        exact stands_named ((held_stands room before entry).mp inside)
      have rowsFit := added_fits distinct (fun entry inside => met entry ((same entry).mp inside).1) few
      have storeFits := added_fits stored met few
      rw [rows_set key value ttl now swept rowsFit,held_set]
      refine ⟨(added_distinct distinct ⟨key,value,now + ttl⟩).sublist (List.filter_sublist.map _),?_⟩
      intro entry
      have all : lastOf maxSize (discard (held maxSize before) key ++ [⟨key,value,now + ttl⟩]) =
          discard (held maxSize before) key ++ [⟨key,value,now + ttl⟩] := by
        simp only [lastOf,Nat.sub_eq_zero_of_le storeFits,List.drop_zero]
      rw [all,List.mem_filter,List.mem_append,List.mem_append,discard_keeps,discard_keeps,same,List.mem_singleton,decide_eq_true_eq]
      have unswept : Unswept (.set key value ttl now swept :: before) entry ↔
          ((setCount before + 1) % sweepInterval = 0 → swept < entry.expiry) ∧ (key ≠ entry.key → Unswept before entry) := by
        unfold Unswept
        by_cases sweeping : (setCount before + 1) % sweepInterval = 0 <;> by_cases mine : key = entry.key <;>
          simp [sweeps,sweeping,mine]
      rw [unswept]
      by_cases newest : entry = ⟨key,value,now + ttl⟩
      · simp [newest]
      · by_cases mine : entry.key = key
        · simp [newest,mine]
        · have other : key ≠ entry.key := fun named => mine named.symm
          simp only [newest,mine,other,ne_eq,not_false_eq_true,or_false,true_implies]
          tauto
    | get key now =>
      rw [rows_get,held_get]
      refine ⟨distinct.sublist ((looked_sublist _ _ _).map _),?_⟩
      intro entry
      rw [looked_keeps distinct,looked_keeps stored,same]
      exact and_right_comm
    | delete key =>
      rw [rows_delete,held_delete]
      refine ⟨distinct.sublist ((discard_sublist _ _).map _),?_⟩
      intro entry
      rw [discard_keeps,discard_keeps,same]
      exact and_right_comm
    | clear =>
      rw [rows_clear,held_clear]
      exact ⟨List.nodup_nil,fun entry => by simp⟩

-- No `get` asks, before it has expired, for an entry that was due at a sweep.
def Prompt (maxSize : Nat) (before : List Operation) : Operation → Prop
  | .get key now => ∀ entry, Stands maxSize entry before → entry.key = key → now ≤ entry.expiry → Unswept before entry
  | _ => True

theorem alike_iff (room : 1 ≤ maxSize) (few : (named Operation.touched before).card ≤ maxSize)
    (operation : Operation) : Alike maxSize before operation ↔ Prompt maxSize before operation := by
  obtain ⟨distinct,same⟩ := rows_held room few
  cases operation with
  | get key now =>
    have table := looked_answer distinct key now
    have store := looked_answer (held_distinct maxSize before) key now
    rw [Alike,sqlite_form,memory_form]
    constructor
    · intro equal entry stands mine live
      have inside := (held_stands room before entry).mpr stands
      have answer : (looked (rows maxSize before) key now).1 = some entry.value :=
        equal.trans ((store entry.value).mpr ⟨entry,inside,mine,rfl,live⟩)
      obtain ⟨row,listed,named,_,_⟩ := (table entry.value).mp answer
      obtain ⟨kept,unswept⟩ := (same row).mp listed
      have whole := held_distinct maxSize before
      have one : row = entry := by
        have found := (find_iff whole).mpr ⟨kept,named⟩
        rw [(find_iff whole).mpr ⟨inside,mine⟩] at found
        exact (Option.some.inj found).symm
      rw [← one]
      exact unswept
    · intro prompt
      apply Option.ext
      intro value
      have either : (looked (rows maxSize before) key now).1 = some value ↔
          (looked (held maxSize before) key now).1 = some value := by
        rw [table,store]
        constructor
        · rintro ⟨entry,listed,found⟩
          exact ⟨entry,((same entry).mp listed).1,found⟩
        · rintro ⟨entry,inside,mine,kept,live⟩
          have unswept := prompt entry ((held_stands room before entry).mp inside) mine live
          exact ⟨entry,(same entry).mpr ⟨inside,unswept⟩,mine,kept,live⟩
      exact either
  | set key value ttl now swept | delete key | clear => exact ⟨fun _ => trivial,fun _ => rfl⟩

theorem named_suffix (suffix : before <:+ history) : named Operation.touched before ⊆ named Operation.touched history := by
  intro key inside
  obtain ⟨seen,older,same⟩ := mem_named.mp inside
  exact mem_named.mpr ⟨seen,suffix.subset older,same⟩

theorem one_cache (room : 1 ≤ maxSize) (history : List Operation) : OneCache maxSize history ↔
    (∀ operation before, operation :: before <:+ history → Renewed maxSize before operation) ∧
      ((named Operation.touched history).card ≤ maxSize →
        ∀ operation before, operation :: before <:+ history → Prompt maxSize before operation) := by
  have step : (named Operation.touched history).card ≤ maxSize → ∀ operation before, operation :: before <:+ history →
      (Alike maxSize before operation ↔ Prompt maxSize before operation) := by
    intro few operation before suffix
    have earlier := named_suffix ((List.suffix_cons operation before).trans suffix)
    exact alike_iff room ((Finset.card_le_card earlier).trans few) operation
  constructor
  · intro one
    refine ⟨?_,?_⟩
    · intro operation before suffix
      exact (leastRecent_iff room before operation).mp (one.leastRecent operation before suffix)
    · intro few operation before suffix
      exact (step few operation before suffix).mp (one.alike few operation before suffix)
  · intro ⟨renewed,prompt⟩
    refine ⟨fun reached _ => held_bounded maxSize reached,fun reached _ => memory_exact room reached,?_,?_⟩
    · intro operation before suffix
      exact (leastRecent_iff room before operation).mpr (renewed operation before suffix)
    · intro few operation before suffix
      exact (step few operation before suffix).mpr (prompt few operation before suffix)

end

section
abbrev treeHash : CacheHash := ⟨Json,inferInstance,id,Function.injective_id⟩
attribute [local instance] treeHash

def first : CacheHash.Digest := Json.null
def second : CacheHash.Digest := Json.bool true
def third : CacheHash.Digest := Json.bool false

-- With room for two: `first` and `second` are set and `first` is read before `third` is set.
def readBetween : List Operation := [.get first 1,.set second .none 10 0 0,.set first .none 10 0 0]

theorem read_not_renewed : ¬ ∀ [CacheHash] (maxSize : Nat), 1 ≤ maxSize → ∀ history : List Operation, OneCache maxSize history := by
  intro claimed
  have one := claimed 2 (by decide) (.set third .none 10 2 2 :: readBetween)
  have gone : evicted 2 (held 2 readBetween) (.set third .none 10 2 2) = [⟨first,.none,0 + (10 : Int)⟩] := by
    with_unfolding_all rfl
  have pushed : (⟨first,.none,0 + (10 : Int)⟩ : Entry) ∈ evicted 2 (held 2 readBetween) (.set third .none 10 2 2) := by
    rw [gone]
    exact List.mem_singleton_self _
  have others := one.leastRecent _ _ List.suffix_rfl _ pushed
  have only : (named Operation.touched (since (Operation.touches first) (.set third .none 10 2 2 :: readBetween))).card = 1 := by
    with_unfolding_all rfl
  rw [only] at others
  omega

theorem one_cache_sample : OneCache 2 [.get first 1,.set first .none 10 0 0] := by
  refine (one_cache (by decide) _).mpr ⟨?_,?_⟩
  · intro operation before suffix entry pushed
    rcases List.suffix_cons_iff.mp suffix with same | rest
    · cases same
      cases pushed
    · rcases List.suffix_cons_iff.mp rest with same | none
      · cases same
        cases pushed
      · cases List.suffix_nil.mp none
  · intro _ operation before suffix
    rcases List.suffix_cons_iff.mp suffix with same | rest
    · cases same
      intro entry _ mine _ moment swept
      have never : sweeps first [.set first .none 10 0 0] = [] := by with_unfolding_all rfl
      rw [mine,never] at swept
      cases swept
    · rcases List.suffix_cons_iff.mp rest with same | none
      · cases same
        trivial
      · cases List.suffix_nil.mp none
end
end OpenStock.Providers.CacheBackends
