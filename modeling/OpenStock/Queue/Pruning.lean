import OpenStock.Foundations.Grouping
import OpenStock.Queue.Effects

namespace OpenStock.Queue

/- Pruning again and again. A call looks at the oldest hundred terminal rows and
skips the retained ones among them. -/

def QueuePruneResult.total (result : QueuePruneResult) : Nat :=
  result.prunedSucceeded + result.prunedFailed + result.prunedCancelled

-- The terminal rows as the query orders them, before age and limit.
def terminalOrder (jobs : List JobRow) : List JobRow :=
  (jobs.filter (fun row => row.status.isTerminal)).insertionSort (fun left right => left.updatedAtMs ≤ right.updatedAtMs)

def pruneCutoff (olderThanDays completedAt : Int) : Int := completedAt - olderThanDays * millisecondsPerDay

-- Terminal, older than the limit and not retained.
def removable (retained : List ProvisioningJobId) (cutoff : Int) (row : JobRow) : Bool :=
  row.status.isTerminal && decide (row.updatedAtMs < cutoff) && !retained.contains row.jobId

def Cleared (retained : List ProvisioningJobId) (cutoff : Int) (tables : QueueTables) : Prop :=
  ∀ row ∈ tables.jobs, removable retained cutoff row = false

-- The call at one time after another; `clock` is constant where `now` is given.
def pruneRepeated (olderThanDays : Int) (retained : List ProvisioningJobId) (clock : Nat → Int) (tables : QueueTables) :
    Nat → QueueTables
  | 0 => tables
  | calls + 1 => (pruneTerminal (pruneRepeated olderThanDays retained clock tables calls) olderThanDays retained (clock calls)).1

def PrunesNothing (olderThanDays : Int) (retained : List ProvisioningJobId) (completedAt : Int) (tables : QueueTables) : Prop :=
  ∃ result, (pruneTerminal tables olderThanDays retained completedAt).2 = .ok result ∧ result.total = 0

-- Ahead of each row to remove there are fewer retained ones than a call looks at.
def WithinWindow (retained : List ProvisioningJobId) (cutoff : Int) (tables : QueueTables) : Prop :=
  ∀ ahead row behind, terminalOrder tables.jobs = ahead ++ row :: behind → removable retained cutoff row = true →
    (ahead.filter (fun earlier => retained.contains earlier.jobId)).length < maxPruneBatchSize

instance : IsTrans JobRow (fun left right => left.updatedAtMs ≤ right.updatedAtMs) := ⟨fun _ _ _ => le_trans⟩
instance : Std.Total (fun left right : JobRow => left.updatedAtMs ≤ right.updatedAtMs) :=
  ⟨fun left right => le_total left.updatedAtMs right.updatedAtMs⟩

variable {row : JobRow} {ahead behind : List JobRow}

section order
variable {jobs : List JobRow} {cutoff : Int} {keep : JobRow → Bool}

theorem order_ranked (jobs : List JobRow) :
    (terminalOrder jobs).Pairwise (fun left right => left.updatedAtMs ≤ right.updatedAtMs) :=
  List.pairwise_insertionSort _ _

theorem mem_order : row ∈ terminalOrder jobs ↔ row ∈ jobs ∧ row.status.isTerminal = true := by
  rw [terminalOrder,List.mem_insertionSort,List.mem_filter]

theorem order_distinct (distinct : Rows.Distinct JobRow.jobId jobs) : Rows.Distinct JobRow.jobId (terminalOrder jobs) :=
  ((List.perm_insertionSort _ _).map _).nodup_iff.mpr (distinct.sublist (List.filter_sublist.map _))

theorem prunable_order (jobs : List JobRow) (cutoff : Int) : prunable jobs cutoff =
      ((terminalOrder jobs).filter (fun row => decide (row.updatedAtMs < cutoff))).take maxPruneBatchSize := by
  rw [prunable,terminalOrder,Grouping.filter_insertionSort,List.filter_filter]
  simp only [Bool.and_comm]

theorem order_filter (keep : JobRow → Bool) (jobs : List JobRow) :
    terminalOrder (jobs.filter keep) = (terminalOrder jobs).filter keep := by
  rw [terminalOrder,terminalOrder,Grouping.filter_insertionSort,List.filter_filter,List.filter_filter]
  simp only [Bool.and_comm]

-- Of the rows old enough, those ahead of one of them are all the rows ahead of it.
theorem old_ahead (placed : terminalOrder jobs = ahead ++ row :: behind) (old : row.updatedAtMs < cutoff) :
    (terminalOrder jobs).filter (fun row => decide (row.updatedAtMs < cutoff)) =
      ahead ++ row :: behind.filter (fun row => decide (row.updatedAtMs < cutoff)) := by
  have ranked := order_ranked jobs
  rw [placed] at ranked
  have older : ∀ earlier ∈ ahead, decide (earlier.updatedAtMs < cutoff) = true := by
    intro earlier inside
    have before := (List.pairwise_append.mp ranked).2.2 earlier inside row List.mem_cons_self
    exact decide_eq_true (lt_of_le_of_lt before old)
  rw [placed,List.filter_append,List.filter_eq_self.mpr older]
  simp only [List.filter_cons,decide_eq_true old,if_true]

-- A row behind that many others is out of the window.
theorem window_short (distinct : Rows.Distinct JobRow.jobId jobs)
    (placed : terminalOrder jobs = ahead ++ row :: behind) (many : maxPruneBatchSize ≤ ahead.length) (cutoff : Int) :
    row ∉ prunable jobs cutoff := by
  intro inside
  have old := (prunable_rows inside).2.2
  rw [prunable_order,old_ahead placed old,List.take_append_of_le_length many] at inside
  have once := order_distinct distinct
  rw [Rows.Distinct,placed,List.map_append,List.map_cons,List.nodup_append] at once
  exact once.2.2 row.jobId (List.mem_map_of_mem (List.mem_of_mem_take inside)) row.jobId List.mem_cons_self rfl

-- A window of retained rows that leaves out a row to remove.
theorem window_full {retained : List ProvisioningJobId}
    (placed : terminalOrder jobs = ahead ++ row :: behind) (left : removable retained cutoff row = true)
    (full : ∀ other ∈ prunable jobs cutoff, retained.contains other.jobId = true) :
    maxPruneBatchSize ≤ (ahead.filter (fun earlier => retained.contains earlier.jobId)).length := by
  simp only [removable,Bool.and_eq_true,decide_eq_true_eq,Bool.not_eq_true'] at left
  have window := prunable_order jobs cutoff
  rw [old_ahead placed left.1.2] at window
  have many : maxPruneBatchSize ≤ ahead.length := by
    by_contra few
    have inside : row ∈ prunable jobs cutoff := by
      rw [window,List.take_append]
      refine List.mem_append_right _ ?_
      obtain ⟨places,room⟩ : ∃ places, maxPruneBatchSize - ahead.length = places + 1 :=
        ⟨maxPruneBatchSize - ahead.length - 1,by omega⟩
      rw [room,List.take_succ_cons]
      exact List.mem_cons_self
    rw [full row inside] at left
    cases left.2
  rw [List.take_append_of_le_length many] at window
  have kept : (ahead.take maxPruneBatchSize).filter (fun earlier => retained.contains earlier.jobId) =
      ahead.take maxPruneBatchSize := List.filter_eq_self.mpr (fun other inside => full other (window ▸ inside))
  have shorter := ((List.take_sublist maxPruneBatchSize ahead).filter
    (fun earlier => retained.contains earlier.jobId)).length_le
  rwa [kept,List.length_take_of_le many] at shorter

end order

/- One call. -/

-- The rows a batch removes.
def dropped (retained : List ProvisioningJobId) (batch : List JobRow) (row : JobRow) : Bool :=
  batch.any (fun other => !retained.contains other.jobId && row.jobId == other.jobId) && row.status.isTerminal

section call
variable {retained : List ProvisioningJobId} {completedAt olderThanDays cutoff : Int} {tables after : QueueTables}

theorem countPruned_total (terminal : status.isTerminal = true) : (countPruned result status).total = result.total + 1 := by
  cases status with
  | succeeded | failed | cancelled => simp only [countPruned,QueuePruneResult.total]; omega
  | queued | running => cases terminal

theorem batch_removes (batch : List JobRow) (terminal : ∀ row ∈ batch, row.status.isTerminal = true)
    (ran : batch.foldlM (pruneRow retained completedAt) state = .ok final) :
    final.1.jobs = state.1.jobs.filter (fun row => !dropped retained batch row) ∧
      final.2.total = state.2.total + (batch.filter (fun row => !retained.contains row.jobId)).length := by
  induction batch generalizing state with
  | nil =>
    cases ran
    simp [dropped]
  | cons row batch ih =>
    rw [List.foldlM_cons] at ran
    obtain ⟨middle,first,rest⟩ := bind_ok ran
    obtain ⟨jobs,total⟩ := ih (fun other inside => terminal other (List.mem_cons_of_mem row inside)) rest
    rw [jobs,total]
    unfold pruneRow at first
    cases held : retained.contains row.jobId with
    | true =>
      rw [held] at first
      cases first
      simp only [dropped,List.any_cons,List.filter_cons,held,Bool.not_true,Bool.false_and,Bool.false_or,
        QueuePruneResult.total,Bool.false_eq_true,if_false,and_self]
    | false =>
      rw [held] at first
      obtain ⟨extended,_,first⟩ := bind_ok first
      cases first
      refine ⟨?_,?_⟩
      · rw [List.filter_filter]
        apply List.filter_congr
        intro other _
        simp only [dropped,List.any_cons,held,Bool.not_false,Bool.true_and]
        cases batch.any (fun row => !retained.contains row.jobId && other.jobId == row.jobId) <;>
          cases other.jobId == row.jobId <;> cases other.status.isTerminal <;> rfl
      · rw [countPruned_total (terminal row List.mem_cons_self),List.filter_cons,held]
        simp only [Bool.not_false,if_true,List.length_cons]
        omega

-- A call that is refused changes nothing; any other filters the jobs.
theorem prune_filters (retained : List ProvisioningJobId) (olderThanDays completedAt : Int) (tables : QueueTables) :
    (pruneTerminal tables olderThanDays retained completedAt).1 = tables ∨
      ∃ result, (pruneTerminal tables olderThanDays retained completedAt).2 = .ok result ∧
        (pruneTerminal tables olderThanDays retained completedAt).1.jobs =
          tables.jobs.filter (fun row => !dropped retained (prunable tables.jobs (pruneCutoff olderThanDays completedAt)) row) ∧
        result.total = ((prunable tables.jobs (pruneCutoff olderThanDays completedAt)).filter
          (fun row => !retained.contains row.jobId)).length := by
  have ran : pruneTerminal tables olderThanDays retained completedAt =
    ((pruneTerminal tables olderThanDays retained completedAt).1,(pruneTerminal tables olderThanDays retained completedAt).2) := rfl
  rcases committed_cases ran with ⟨refused,_,same,_⟩ | ⟨result,done,reply⟩
  · exact .inl same
  · obtain ⟨jobs,total⟩ := batch_removes _ (fun row inside => (prunable_rows inside).2.1) done
    exact .inr ⟨result,reply,jobs,total.trans (Nat.zero_add _)⟩

theorem dropped_row (distinct : Rows.Distinct JobRow.jobId tables.jobs) (present : row ∈ tables.jobs)
    (gone : dropped retained (prunable tables.jobs cutoff) row = true) :
    row ∈ prunable tables.jobs cutoff ∧ removable retained cutoff row = true := by
  simp only [dropped,Bool.and_eq_true,List.any_eq_true,Bool.not_eq_true',beq_iff_eq] at gone
  obtain ⟨⟨other,listed,free,same⟩,terminal⟩ := gone
  obtain ⟨inside,_,old⟩ := prunable_rows listed
  have one := Rows.same_row distinct present inside same
  subst one
  refine ⟨listed,?_⟩
  rw [removable,terminal,free,decide_eq_true old]
  rfl

-- What a call leaves, as a filter that spares every row outside its window.
theorem prune_spares (distinct : Rows.Distinct JobRow.jobId tables.jobs) (retained : List ProvisioningJobId)
    (olderThanDays completedAt : Int) :
    ∃ keep, (pruneTerminal tables olderThanDays retained completedAt).1.jobs = tables.jobs.filter keep ∧
      ∀ row ∈ tables.jobs, keep row = false → row ∈ prunable tables.jobs (pruneCutoff olderThanDays completedAt) ∧
        removable retained (pruneCutoff olderThanDays completedAt) row = true := by
  rcases prune_filters retained olderThanDays completedAt tables with same | ⟨_,_,jobs,_⟩
  · exact ⟨fun _ => true,by rw [same,List.filter_true],fun _ _ impossible => by cases impossible⟩
  · exact ⟨_,jobs,fun row present gone => dropped_row distinct present (by simpa using gone)⟩

-- A call that prunes nothing met retained rows only.
theorem nothing_full (none : PrunesNothing olderThanDays retained completedAt tables) :
    ∀ row ∈ prunable tables.jobs (pruneCutoff olderThanDays completedAt), retained.contains row.jobId = true := by
  obtain ⟨result,reply,zero⟩ := none
  have ran : pruneTerminal tables olderThanDays retained completedAt =
    ((pruneTerminal tables olderThanDays retained completedAt).1,(pruneTerminal tables olderThanDays retained completedAt).2) := rfl
  rcases committed_cases ran with ⟨refused,_,_,failed⟩ | ⟨value,done,same⟩
  · have impossible := failed.symm.trans reply
    cases impossible
  · obtain ⟨_,total⟩ := batch_removes _ (fun row inside => (prunable_rows inside).2.1) done
    have value_ : Except.ok value = Except.ok result := same.symm.trans reply
    cases value_
    have none : (prunable tables.jobs (pruneCutoff olderThanDays completedAt)).filter
        (fun row => !retained.contains row.jobId) = [] :=
      List.length_eq_zero_iff.mp ((Nat.zero_add _).symm.trans (total.symm.trans zero))
    intro row inside
    by_contra free
    have listed : row ∈ (prunable tables.jobs (pruneCutoff olderThanDays completedAt)).filter
        (fun row => !retained.contains row.jobId) := List.mem_filter.mpr ⟨inside,by rw [Bool.eq_false_of_not_eq_true free]; rfl⟩
    rw [none] at listed
    cases listed

end call

/- Many calls. -/

section run
variable {retained : List ProvisioningJobId} {olderThanDays cutoff : Int} {clock : Nat → Int} {tables : QueueTables}

-- The calls so far are one filter, which spares what no call had to remove.
theorem repeated_spares (distinct : Rows.Distinct JobRow.jobId tables.jobs) (retained : List ProvisioningJobId)
    (olderThanDays : Int) (clock : Nat → Int) (calls : Nat) :
    ∃ keep, (pruneRepeated olderThanDays retained clock tables calls).jobs = tables.jobs.filter keep ∧
      ∀ row ∈ tables.jobs, keep row = false →
        ∃ call < calls, removable retained (pruneCutoff olderThanDays (clock call)) row = true := by
  induction calls with
  | zero => exact ⟨fun _ => true,by rw [pruneRepeated,List.filter_true],fun _ _ impossible => by cases impossible⟩
  | succ calls ih =>
    obtain ⟨keep,jobs,spared⟩ := ih
    have once : Rows.Distinct JobRow.jobId (pruneRepeated olderThanDays retained clock tables calls).jobs := by
      rw [jobs]
      exact distinct.sublist (List.filter_sublist.map _)
    obtain ⟨next,filtered,removed⟩ := prune_spares once retained olderThanDays (clock calls)
    refine ⟨fun row => next row && keep row,?_,?_⟩
    · rw [pruneRepeated,filtered,jobs,List.filter_filter]
    · intro row present gone
      cases kept : keep row with
      | false =>
        obtain ⟨call,before,due⟩ := spared row present kept
        exact ⟨call,Nat.lt_succ_of_lt before,due⟩
      | true =>
        have due : next row = false := by simpa [kept] using gone
        have there : row ∈ (pruneRepeated olderThanDays retained clock tables calls).jobs := by
          rw [jobs]
          exact List.mem_filter.mpr ⟨present,kept⟩
        exact ⟨calls,Nat.lt_succ_self calls,(removed row there due).2⟩

theorem repeated_distinct (distinct : Rows.Distinct JobRow.jobId tables.jobs) (calls : Nat) :
    Rows.Distinct JobRow.jobId (pruneRepeated olderThanDays retained clock tables calls).jobs := by
  obtain ⟨keep,jobs,_⟩ := repeated_spares distinct retained olderThanDays clock calls
  rw [jobs]
  exact distinct.sublist (List.filter_sublist.map _)

-- The retained rows ahead of a row stay there.
theorem retained_ahead {keep : JobRow → Bool} {jobs ahead : List JobRow} (inside : ∀ row ∈ ahead, row ∈ jobs)
    (spared : ∀ row ∈ jobs, keep row = false → retained.contains row.jobId = false) :
    (ahead.filter keep).filter (fun earlier => retained.contains earlier.jobId) =
      ahead.filter (fun earlier => retained.contains earlier.jobId) := by
  rw [List.filter_filter]
  apply List.filter_congr
  intro row listed
  cases kept : keep row with
  | true => rw [Bool.and_true]
  | false => rw [spared row (inside row listed) kept,Bool.false_and]

theorem spared_free (due : removable retained cutoff row = true) : retained.contains row.jobId = false := by
  simp only [removable,Bool.and_eq_true,Bool.not_eq_true'] at due
  exact due.2

theorem ahead_present {jobs ahead behind : List JobRow} (placed : terminalOrder jobs = ahead ++ row :: behind) :
    ∀ earlier ∈ ahead, earlier ∈ jobs := by
  intro earlier inside
  exact (mem_order.mp (placed ▸ List.mem_append_left _ inside)).1

-- A row behind a hundred retained ones is never removed.
theorem blocked_stays (olderThanDays : Int) (clock : Nat → Int) (distinct : Rows.Distinct JobRow.jobId tables.jobs)
    (placed : terminalOrder tables.jobs = ahead ++ row :: behind)
    (many : maxPruneBatchSize ≤ (ahead.filter (fun earlier => retained.contains earlier.jobId)).length) (calls : Nat) :
    row ∈ (pruneRepeated olderThanDays retained clock tables calls).jobs := by
  induction calls with
  | zero => exact (mem_order.mp (placed ▸ List.mem_append_right _ List.mem_cons_self)).1
  | succ calls ih =>
    obtain ⟨keep,jobs,spared⟩ := repeated_spares distinct retained olderThanDays clock calls
    obtain ⟨next,filtered,removed⟩ := prune_spares (repeated_distinct distinct calls) retained olderThanDays (clock calls)
    have kept : keep row = true := (List.mem_filter.mp (jobs ▸ ih)).2
    have order : terminalOrder (pruneRepeated olderThanDays retained clock tables calls).jobs =
        ahead.filter keep ++ row :: behind.filter keep := by
      rw [jobs,order_filter,placed,List.filter_append,List.filter_cons_of_pos kept]
    have still := retained_ahead (ahead_present placed) (fun row present gone =>
      (spared row present gone).elim (fun _ due => spared_free due.2))
    have enough : maxPruneBatchSize ≤ (ahead.filter keep).length :=
      (still ▸ many).trans (List.length_filter_le _ _)
    have outside := window_short (repeated_distinct distinct calls) order enough (pruneCutoff olderThanDays (clock calls))
    rw [pruneRepeated,filtered]
    refine List.mem_filter.mpr ⟨ih,?_⟩
    by_contra gone
    exact outside (removed row ih (by simpa using gone)).1

theorem nothing_cleared (distinct : Rows.Distinct JobRow.jobId tables.jobs)
    (within : WithinWindow retained (pruneCutoff olderThanDays (clock calls)) tables)
    (none : PrunesNothing olderThanDays retained (clock calls) (pruneRepeated olderThanDays retained clock tables calls)) :
    Cleared retained (pruneCutoff olderThanDays (clock calls)) (pruneRepeated olderThanDays retained clock tables calls) := by
  obtain ⟨keep,jobs,spared⟩ := repeated_spares distinct retained olderThanDays clock calls
  intro row present
  by_contra due
  have left : removable retained (pruneCutoff olderThanDays (clock calls)) row = true := by simpa using due
  obtain ⟨source,kept⟩ := List.mem_filter.mp (jobs ▸ present)
  have terminal : row.status.isTerminal = true := by
    simp only [removable,Bool.and_eq_true] at left
    exact left.1.1
  obtain ⟨ahead,behind,placed⟩ := List.append_of_mem (mem_order.mpr ⟨source,terminal⟩)
  have order : terminalOrder (pruneRepeated olderThanDays retained clock tables calls).jobs =
      ahead.filter keep ++ row :: behind.filter keep := by
    rw [jobs,order_filter,placed,List.filter_append,List.filter_cons_of_pos kept]
  have many := window_full order left (nothing_full none)
  rw [retained_ahead (ahead_present placed) (fun row present gone =>
    (spared row present gone).elim (fun _ due => spared_free due.2))] at many
  exact absurd (within ahead row behind placed left) (Nat.not_lt_of_le many)

theorem cleared_within (distinct : Rows.Distinct JobRow.jobId tables.jobs)
    (cleared : Cleared retained cutoff (pruneRepeated olderThanDays retained clock tables calls)) :
    WithinWindow retained cutoff tables := by
  intro ahead row behind placed due
  by_contra many
  have stays := blocked_stays olderThanDays clock distinct placed (Nat.le_of_not_lt many) calls
  rw [cleared row stays] at due
  cases due

end run

/- Repetition ends: each call that removes something leaves fewer jobs. -/

-- No job has an id that was pruned before; ids are drawn afresh.
def Unpruned (tables : QueueTables) : Prop := ∀ row ∈ tables.jobs, ∀ earlier ∈ tables.pruned, earlier.jobId ≠ row.jobId

section progress
variable {retained : List ProvisioningJobId} {olderThanDays completedAt : Int} {clock : Nat → Int} {tables : QueueTables}

-- A batch of jobs not met before is never refused, and records what it removes.
theorem batch_accepted (batch : List JobRow) (distinct : Rows.Distinct JobRow.jobId batch)
    (state : QueueTables × QueuePruneResult) (fresh : ∀ row ∈ batch, ∀ earlier ∈ state.1.pruned, earlier.jobId ≠ row.jobId) :
    ∃ final, batch.foldlM (pruneRow retained completedAt) state = .ok final ∧
      ∀ earlier ∈ final.1.pruned, earlier ∈ state.1.pruned ∨
        ∃ row ∈ batch, retained.contains row.jobId = false ∧ earlier.jobId = row.jobId := by
  induction batch generalizing state with
  | nil => exact ⟨state,rfl,fun earlier inside => .inl inside⟩
  | cons row batch ih =>
    obtain ⟨alone,others⟩ := List.nodup_cons.mp distinct
    cases held : retained.contains row.jobId with
    | true =>
      have first : pruneRow retained completedAt state row =
          .ok (state.1,{state.2 with retainedReferenced := state.2.retainedReferenced + 1}) := by rw [pruneRow,if_pos held]
      obtain ⟨final,ran,recorded⟩ := ih others (state.1,{state.2 with retainedReferenced := state.2.retainedReferenced + 1})
        (fun other inside => fresh other (List.mem_cons_of_mem row inside))
      refine ⟨final,by rw [List.foldlM_cons,first]; exact ran,?_⟩
      intro earlier inside
      rcases recorded earlier inside with before | ⟨other,listed,free,same⟩
      · exact .inl before
      · exact .inr ⟨other,List.mem_cons_of_mem row listed,free,same⟩
    | false =>
      have accepted : insertPruned state.1.pruned ⟨row.jobId,row.status,completedAt⟩ =
          .ok (state.1.pruned ++ [⟨row.jobId,row.status,completedAt⟩]) := by
        rw [insertPruned,if_neg]
        intro taken
        obtain ⟨earlier,inside,same⟩ := List.any_eq_true.mp taken
        exact fresh row List.mem_cons_self earlier inside (by simpa using same)
      obtain ⟨middle,first,pruned⟩ : ∃ middle, pruneRow retained completedAt state row = .ok middle ∧
          middle.1.pruned = state.1.pruned ++ [⟨row.jobId,row.status,completedAt⟩] := by
        refine ⟨(⟨state.1.jobs.filter (fun other => !(other.jobId == row.jobId && other.status.isTerminal)),
          state.1.pruned ++ [⟨row.jobId,row.status,completedAt⟩]⟩,countPruned state.2 row.status),?_,rfl⟩
        rw [pruneRow,if_neg (by rw [held]; exact Bool.false_ne_true),accepted]
        rfl
      obtain ⟨final,ran,recorded⟩ := ih others middle (by
        intro other inside earlier before same
        rcases List.mem_append.mp (pruned ▸ before) with old | new
        · exact fresh other (List.mem_cons_of_mem row inside) earlier old same
        · rw [List.mem_singleton.mp new] at same
          exact alone (List.mem_map.mpr ⟨other,inside,same.symm⟩))
      refine ⟨final,by rw [List.foldlM_cons,first]; exact ran,?_⟩
      intro earlier inside
      rcases recorded earlier inside with before | ⟨other,listed,free,same⟩
      · rcases List.mem_append.mp (pruned ▸ before) with old | new
        · exact .inl old
        · exact .inr ⟨row,List.mem_cons_self,held,by rw [List.mem_singleton.mp new]⟩
      · exact .inr ⟨other,List.mem_cons_of_mem row listed,free,same⟩

-- One call: no job is lost from both tables, and unless nothing is pruned there are fewer.
theorem prune_accepted (distinct : Rows.Distinct JobRow.jobId tables.jobs) (fresh : Unpruned tables) :
    Unpruned (pruneTerminal tables olderThanDays retained completedAt).1 ∧
      (PrunesNothing olderThanDays retained completedAt tables ∨
        (pruneTerminal tables olderThanDays retained completedAt).1.jobs.length < tables.jobs.length) := by
  obtain ⟨final,done,recorded⟩ := @batch_accepted retained completedAt (prunable tables.jobs (pruneCutoff olderThanDays completedAt))
    (prunable_distinct distinct) (tables,⟨0,0,0,0,completedAt⟩) (fun row inside => fresh row (prunable_rows inside).1)
  have ran : pruneTerminal tables olderThanDays retained completedAt = (final.1,.ok final.2) := by
    have body : (prunable tables.jobs (completedAt - olderThanDays * millisecondsPerDay)).foldlM
        (pruneRow retained completedAt) (tables,⟨0,0,0,0,completedAt⟩) = .ok final := done
    rw [pruneTerminal]
    simp only [body,committed]
  obtain ⟨jobs,total⟩ := batch_removes _ (fun row inside => (prunable_rows inside).2.1) done
  rw [ran]
  refine ⟨?_,?_⟩
  · intro row inside earlier before same
    obtain ⟨present,kept⟩ := List.mem_filter.mp (jobs ▸ inside)
    rcases recorded earlier before with old | ⟨other,listed,free,named⟩
    · exact fresh row present earlier old same
    · have one := Rows.same_row distinct present (prunable_rows listed).1 (same.symm.trans named)
      subst one
      have gone : dropped retained (prunable tables.jobs (pruneCutoff olderThanDays completedAt)) row = true := by
        rw [dropped,(prunable_rows listed).2.1,Bool.and_true]
        exact List.any_eq_true.mpr ⟨row,listed,by rw [free]; exact beq_self_eq_true row.jobId⟩
      rw [gone] at kept
      cases kept
  · cases removed : (prunable tables.jobs (pruneCutoff olderThanDays completedAt)).filter
        (fun row => !retained.contains row.jobId) with
    | nil =>
      refine .inl ⟨final.2,by rw [ran],?_⟩
      rw [total,removed]
      rfl
    | cons row others =>
      right
      have listed : row ∈ (prunable tables.jobs (pruneCutoff olderThanDays completedAt)).filter
          (fun row => !retained.contains row.jobId) := by
        rw [removed]
        exact List.mem_cons_self
      obtain ⟨inside,free⟩ := List.mem_filter.mp listed
      simp only
      rw [jobs]
      apply List.length_filter_lt_length_iff_exists.mpr
      refine ⟨row,(prunable_rows inside).1,?_⟩
      rw [dropped,(prunable_rows inside).2.1,Bool.and_true,List.any_eq_true.mpr ⟨row,inside,by rw [free]; exact beq_self_eq_true row.jobId⟩]
      simp

theorem repeated_fresh (distinct : Rows.Distinct JobRow.jobId tables.jobs) (fresh : Unpruned tables) (calls : Nat) :
    Unpruned (pruneRepeated olderThanDays retained clock tables calls) := by
  induction calls with
  | zero => exact fresh
  | succ calls ih => exact (prune_accepted (repeated_distinct distinct calls) ih).1

theorem repeated_ends (distinct : Rows.Distinct JobRow.jobId tables.jobs) (fresh : Unpruned tables) :
    ∃ calls ≤ tables.jobs.length,
      PrunesNothing olderThanDays retained (clock calls) (pruneRepeated olderThanDays retained clock tables calls) := by
  by_contra never
  push Not at never
  have fewer : ∀ calls ≤ tables.jobs.length + 1,
      (pruneRepeated olderThanDays retained clock tables calls).jobs.length + calls ≤ tables.jobs.length := by
    intro calls bound
    induction calls with
    | zero => exact le_refl _
    | succ calls ih =>
      have before := ih (Nat.le_of_succ_le bound)
      rcases (@prune_accepted retained olderThanDays (clock calls) _ (repeated_distinct distinct calls)
        (repeated_fresh distinct fresh calls)).2 with none | less
      · exact absurd none (never calls (Nat.le_of_succ_le_succ bound))
      · rw [pruneRepeated]
        omega
  have all := fewer (tables.jobs.length + 1) (le_refl _)
  omega

end progress

-- Over every queue, retained set, age limit and clock: no other job is ever
-- removed, the calls come to one that prunes nothing, and what that leaves is
-- cleared exactly when no row to remove has a hundred retained ones ahead.
theorem prune_progress_exact (olderThanDays : Int) (retained : List ProvisioningJobId) (clock : Nat → Int) (tables : QueueTables)
    (distinct : Rows.Distinct JobRow.jobId tables.jobs) : (∀ calls, ∀ row ∈ tables.jobs,
      (∀ call < calls, removable retained (pruneCutoff olderThanDays (clock call)) row = false) →
        row ∈ (pruneRepeated olderThanDays retained clock tables calls).jobs) ∧ (Unpruned tables → ∃ calls ≤ tables.jobs.length,
      PrunesNothing olderThanDays retained (clock calls) (pruneRepeated olderThanDays retained clock tables calls)) ∧
    ∀ calls, PrunesNothing olderThanDays retained (clock calls) (pruneRepeated olderThanDays retained clock tables calls) →
      (Cleared retained (pruneCutoff olderThanDays (clock calls)) (pruneRepeated olderThanDays retained clock tables calls) ↔
        WithinWindow retained (pruneCutoff olderThanDays (clock calls)) tables) := by
  refine ⟨?_,repeated_ends distinct,?_⟩
  · intro calls row present spared
    obtain ⟨keep,jobs,removed⟩ := repeated_spares distinct retained olderThanDays clock calls
    rw [jobs]
    refine List.mem_filter.mpr ⟨present,?_⟩
    by_contra gone
    obtain ⟨call,before,due⟩ := removed row present (by simpa using gone)
    rw [spared call before] at due
    cases due
  · intro calls none
    exact ⟨cleared_within distinct,fun within => nothing_cleared distinct within none⟩

/- A hundred retained jobs of maintenance runs, and one job after them. -/

def endedJob (jobId : ProvisioningJobId) (updatedAtMs : Int) : JobRow :=
  {jobId := jobId,goalIdentity := jobId,goalType := .finalizeMarketSession,status := .succeeded,priority := 0,stage := "done",
   payloadVersion := 1,payloadJson := [],attempts := 1,leaseOwner := none,leaseExpiresAtMs := none,leaseHeartbeatAtMs := none,
   origin := none,correlationId := none,cancellationRequested := false,result := some [],error := none,availableAtMs := 0,
   createdAtMs := 0,updatedAtMs := updatedAtMs}

def looseJob : JobRow := endedJob ['b'] 100
def heldJobs : List JobRow := (List.range 100).map (fun place => endedJob (List.replicate place 'a') place)
def heldIds : List ProvisioningJobId := heldJobs.map JobRow.jobId
def crowdedTables : QueueTables := ⟨heldJobs ++ [looseJob],[]⟩

theorem prune_progress_exact_sample : ∃ calls ≤ 1, PrunesNothing 1 [] (2 * millisecondsPerDay)
    (pruneRepeated 1 [] (fun _ => 2 * millisecondsPerDay) ⟨[looseJob],[]⟩ calls) :=
  (prune_progress_exact 1 [] (fun _ => 2 * millisecondsPerDay) ⟨[looseJob],[]⟩ (List.nodup_singleton _)).2.1
    (fun _ _ _ inside => by cases inside)

theorem held_loose : looseJob.jobId ∉ heldIds := by
  intro inside
  obtain ⟨row,listed,same⟩ := List.mem_map.mp inside
  obtain ⟨place,_,rfl⟩ := List.mem_map.mp listed
  have letters := congrArg (List.count 'b') same
  simp [endedJob,looseJob,List.count_replicate] at letters

theorem crowded_distinct : Rows.Distinct JobRow.jobId crowdedTables.jobs := by
  unfold Rows.Distinct crowdedTables
  rw [List.map_append,List.nodup_append]
  refine ⟨?_,List.nodup_singleton _,?_⟩
  · rw [heldJobs,List.map_map]
    refine List.nodup_range.map ?_
    intro left right same
    simpa [endedJob] using congrArg List.length same
  · intro held inside loose single same
    rw [List.map_singleton,List.mem_singleton] at single
    exact held_loose (single ▸ same ▸ inside)

theorem crowded_order : terminalOrder crowdedTables.jobs = heldJobs ++ looseJob :: [] := by
  have ended : ∀ row ∈ crowdedTables.jobs, row.status.isTerminal = true := by
    intro row inside
    rcases List.mem_append.mp inside with held | loose
    · obtain ⟨place,_,rfl⟩ := List.mem_map.mp held
      rfl
    · rw [List.mem_singleton.mp loose]
      rfl
  rw [terminalOrder,List.filter_eq_self.mpr ended]
  apply List.Pairwise.insertionSort_eq
  refine List.pairwise_append.mpr ⟨?_,List.pairwise_singleton _ _,?_⟩
  · rw [heldJobs,List.pairwise_map]
    exact List.pairwise_lt_range.imp (fun less => Int.ofNat_le.mpr (Nat.le_of_lt less))
  · intro held inside loose single
    obtain ⟨place,below,rfl⟩ := List.mem_map.mp inside
    rw [List.mem_singleton.mp single]
    exact Int.ofNat_le.mpr (Nat.le_of_lt (List.mem_range.mp below))

theorem crowded_window (cutoff : Int) : ∀ row ∈ prunable crowdedTables.jobs cutoff, heldIds.contains row.jobId = true := by
  intro row inside
  obtain ⟨present,_,_⟩ := prunable_rows inside
  rcases List.mem_append.mp present with held | loose
  · exact List.contains_iff_mem.mpr (List.mem_map_of_mem held)
  · have many : maxPruneBatchSize ≤ heldJobs.length := by simp [heldJobs,maxPruneBatchSize]
    have short := window_short crowded_distinct crowded_order many cutoff
    rw [List.mem_singleton.mp loose] at inside
    exact absurd inside short

-- Nothing is pruned, and the later job stays.
theorem prune_starves : ¬ ∀ (olderThanDays : Int) (retained : List ProvisioningJobId) (clock : Nat → Int) (tables : QueueTables)
    (calls : Nat), Rows.Distinct JobRow.jobId tables.jobs →
      PrunesNothing olderThanDays retained (clock calls) (pruneRepeated olderThanDays retained clock tables calls) →
        Cleared retained (pruneCutoff olderThanDays (clock calls)) (pruneRepeated olderThanDays retained clock tables calls) := by
  intro progress
  have none : PrunesNothing 1 heldIds (2 * millisecondsPerDay) crowdedTables := by
    have fresh : Unpruned crowdedTables := fun _ _ _ inside => by cases inside
    rcases (@prune_accepted heldIds 1 (2 * millisecondsPerDay) _ crowded_distinct fresh).2 with none | fewer
    · exact none
    · obtain ⟨keep,jobs,removed⟩ := prune_spares crowded_distinct heldIds 1 (2 * millisecondsPerDay)
      have all : ∀ row ∈ crowdedTables.jobs, keep row = true := by
        intro row present
        by_contra gone
        obtain ⟨inside,due⟩ := removed row present (by simpa using gone)
        exact absurd (crowded_window _ row inside) (by rw [spared_free due]; exact Bool.false_ne_true)
      rw [jobs,List.filter_eq_self.mpr all] at fewer
      exact absurd fewer (Nat.lt_irrefl _)
  have cleared := progress 1 heldIds (fun _ => 2 * millisecondsPerDay) crowdedTables 0 crowded_distinct none looseJob
    (List.mem_append_right _ List.mem_cons_self)
  have free : heldIds.contains looseJob.jobId = false := by simpa using held_loose
  rw [removable,free] at cleared
  exact absurd cleared (by decide)

end OpenStock.Queue
