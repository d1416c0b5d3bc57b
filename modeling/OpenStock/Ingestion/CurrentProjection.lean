import OpenStock.Foundations.Runs
import OpenStock.Ingestion.SymbolSync

namespace OpenStock.Ingestion
open Text Calendar Warehouse

/- `symbol_master` against the open versions of the history. -/

-- Every symbol has one open version, with the type and the status of its row.
def Agreement (tables : SymbolTables) : Prop :=
  ∀ row ∈ tables.master.rows, ∃ revision, openRevisions tables.history row.symbol = [revision] ∧
    revision.securityType = row.securityType ∧ revision.lifecycleStatus = row.lifecycleStatus

-- A version in the history is of a symbol that has a row.
def Known (tables : SymbolTables) : Prop := ∀ key ∈ keys tables.history, ∃ row ∈ tables.master.rows, row.symbol = key.1

-- What the rows of a run come from: they stood there before, or the snapshot names them.
def Touched (runId : Text) (before after : SymbolTables) : Prop :=
  ∀ row ∈ after.master.rows, row ∈ before.master.rows ∨
    ∃ member ∈ after.membership, member.sourceSnapshotId = runId ∧ member.symbol = row.symbol

section
variable [SqlCasts]

-- The run is authoritative and complete, and an active symbol of its source is not among its records.
def LeavesUnseen (run : SymbolRun) (tables : SymbolTables) : Prop :=
  ∃ source records, acceptedRecords run = .ok (source,records) ∧ run.authoritativeSnapshot = true ∧
    (∀ record ∈ records, (normalizeSymbolTaxonomy source record).isOk = true) ∧
    ∃ row ∈ tables.master.rows, row.isActive = true ∧ row.classificationSource = source ∧
      ∀ taxonomy ∈ taxonomies source records, taxonomy.symbol ≠ row.symbol

/- One record. -/

variable {call : PersistCall}

theorem revised_passed {before after : ClassificationHistory} (revised : Revised call before (after,none)) :
    Recorded before call.taxonomy ∧ after = before ∨ ∃ row, Written call before after row := by
  cases revised with
  | unchanged read recorded => exact .inl ⟨recorded,rfl⟩
  | written read changed fresh written => exact .inr ⟨_,written⟩

-- What a call that passes leaves in the tables.
structure Persisted (call : PersistCall) (before after : SymbolTables) (row : MasterRow) : Prop where
  symbol : row.symbol = call.taxonomy.symbol
  classified : row.securityType = call.taxonomy.securityType ∧ row.lifecycleStatus = call.taxonomy.lifecycleStatus
  master : after.master.rows = Rows.upsert MasterRow.symbol before.master.rows row
  revised : Recorded before.history call.taxonomy ∧ after.history = before.history ∨
    ∃ row, Written call before.history after.history row
  membership : after.membership =
    insertMembership ⟨call.snapshotId,call.taxonomy.symbol,call.taxonomy.classificationSource⟩ before.membership

theorem persist_passed {before after : SymbolTables}
    (passed : persistSymbolTaxonomy call before = (after,none)) : ∃ row, Persisted call before after row := by
  have revised := revise_cases call before.history
  rw [← persist_history,passed] at revised
  unfold persistSymbolTaxonomy at passed
  split at passed
  · cases passed
  · rename_i master upserted
    split at passed
    · cases passed
    · cases passed
      unfold upsertCurrentSymbol at upserted
      split at upserted
      · cases upserted
        exact ⟨_,⟨rfl,⟨rfl,rfl⟩,rfl,revised_passed revised,rfl⟩⟩
      · cases upserted

omit [SqlCasts] in
theorem insert_member (row : MembershipRow) (rows : List MembershipRow) :
    (∃ member ∈ insertMembership row rows, member.sourceSnapshotId = row.sourceSnapshotId ∧ member.symbol = row.symbol) ∧
      ∀ member ∈ rows, member ∈ insertMembership row rows := by
  unfold insertMembership
  split
  · rename_i present
    obtain ⟨member,inside,same⟩ := List.any_eq_true.mp present
    rw [Bool.and_eq_true,beq_iff_eq,beq_iff_eq] at same
    exact ⟨⟨member,inside,same⟩,fun _ kept => kept⟩
  · exact ⟨⟨row,List.mem_append_right _ (List.mem_singleton.mpr rfl),rfl,rfl⟩,fun _ kept => List.mem_append_left _ kept⟩

section step
variable {call : PersistCall} {before after : SymbolTables} {row : MasterRow}

theorem persisted_row (persisted : Persisted call before after row) (other : MasterRow) :
    other ∈ after.master.rows ↔ other = row ∨ other ∈ before.master.rows ∧ other.symbol ≠ call.taxonomy.symbol := by
  rw [persisted.master,Rows.mem_upsert_key,persisted.symbol]

theorem persisted_known (persisted : Persisted call before after row) (known : Known before) : Known after := by
  have kept : ∀ key ∈ keys before.history, ∃ other ∈ after.master.rows, other.symbol = key.1 := by
    intro key inside
    obtain ⟨other,listed,named⟩ := known key inside
    by_cases same : other.symbol = call.taxonomy.symbol
    · exact ⟨row,(persisted_row persisted row).mpr (.inl rfl),persisted.symbol.trans (same.symm.trans named)⟩
    · exact ⟨other,(persisted_row persisted other).mpr (.inr ⟨listed,same⟩),named⟩
  intro key inside
  rcases persisted.revised with ⟨_,same⟩ | ⟨revision,written⟩
  · exact kept key (same ▸ inside)
  · rw [written.keyed] at inside
    rcases List.mem_append.mp inside with earlier | latest
    · exact kept key earlier
    · rw [List.mem_singleton.mp latest]
      exact ⟨row,(persisted_row persisted row).mpr (.inl rfl),persisted.symbol.trans written.symbol.symm⟩

-- The version that is open for the symbol of the record.
theorem persisted_open (persisted : Persisted call before after row) (agreed : Agreement before) (known : Known before) :
    ∃ revision, openRevisions after.history call.taxonomy.symbol = [revision] ∧
      revision.securityType = call.taxonomy.securityType ∧ revision.lifecycleStatus = call.taxonomy.lifecycleStatus := by
  rcases persisted.revised with ⟨recorded,unchanged⟩ | ⟨revision,written⟩
  · obtain ⟨revision,current,same⟩ := Option.map_eq_some_iff.mp recorded
    have listed := List.mem_filter.mp (Rows.firstBy_mem current)
    obtain ⟨other,present,named⟩ := known revision.key (List.mem_map.mpr ⟨revision,listed.1,rfl⟩)
    have symbol : other.symbol = call.taxonomy.symbol := named.trans (beq_iff_eq.mp (Bool.and_eq_true_iff.mp listed.2).1)
    obtain ⟨only,single,_⟩ := agreed other present
    rw [symbol] at single
    have one : only = revision := by
      rw [currentRevision,single] at current
      exact Option.some.inj current
    rw [unchanged]
    refine ⟨revision,one ▸ single,?_,?_⟩
    · exact PyValue.str.inj (Option.some.inj (congrArg (fun values : List PyValue => values[1]?) same))
    · exact PyValue.str.inj (Option.some.inj (congrArg (fun values : List PyValue => values[2]?) same))
  · exact ⟨revision,written.opened,written.classified⟩

theorem persisted_others (persisted : Persisted call before after row)
    (differs : symbol ≠ call.taxonomy.symbol) : openRevisions after.history symbol = openRevisions before.history symbol := by
  rcases persisted.revised with ⟨_,unchanged⟩ | ⟨revision,written⟩
  · rw [unchanged]
  · exact written.others symbol differs

theorem persisted_agrees (persisted : Persisted call before after row) (agreed : Agreement before) (known : Known before) :
    Agreement after := by
  intro other inside
  rcases (persisted_row persisted other).mp inside with rfl | ⟨earlier,differs⟩
  · rw [persisted.symbol,persisted.classified.1,persisted.classified.2]
    exact persisted_open persisted agreed known
  · rw [persisted_others persisted differs]
    exact agreed other earlier

theorem persisted_member (persisted : Persisted call before after row) :
    (∃ member ∈ after.membership, member.sourceSnapshotId = call.snapshotId ∧ member.symbol = call.taxonomy.symbol) ∧
      ∀ member ∈ before.membership, member ∈ after.membership := by
  rw [persisted.membership]
  exact insert_member ⟨call.snapshotId,call.taxonomy.symbol,call.taxonomy.classificationSource⟩ before.membership

theorem persisted_touched (persisted : Persisted call before after row)
    (touched : Touched call.snapshotId start before) : Touched call.snapshotId start after := by
  obtain ⟨named,kept⟩ := persisted_member persisted
  intro other inside
  rcases (persisted_row persisted other).mp inside with rfl | ⟨earlier,_⟩
  · rw [persisted.symbol]
    exact .inr named
  · rcases touched other earlier with old | ⟨member,listed,same⟩
    · exact .inl old
    · exact .inr ⟨member,kept member listed,same⟩

end step

/- All records of a run. -/

-- Each record that names a symbol is persisted; the others are counted.
inductive Passed (run : SymbolRun) (source : Text) : List SourceRecord → RecordScan → RecordScan → Prop where
  | nil : Passed run source [] scan scan
  | refused (reason : normalizeSymbolTaxonomy source record = .error error)
      (rest : Passed run source records {scan with observed := scan.observed + 1,errors := scan.errors + 1} final) :
      Passed run source (record :: records) scan final
  | persisted {row : MasterRow} (normal : normalizeSymbolTaxonomy source record = .ok taxonomy)
      (step : Persisted ⟨run.runId,run.now,taxonomy⟩ scan.tables tables row)
      (rest : Passed run source records
        {scan with tables := tables,observed := scan.observed + 1,synced := scan.synced + 1} final) :
      Passed run source (record :: records) scan final

variable {run : SymbolRun} {records : List SourceRecord} {source : Text}

theorem records_passed {scan final : RecordScan}
    (passed : persistRecords run source records scan = (final,none)) : Passed run source records scan final := by
  induction records generalizing scan with
  | nil =>
    cases passed
    exact .nil
  | cons record records ih =>
    cases normal : normalizeSymbolTaxonomy source record with
    | error refused =>
      simp only [persistRecords,normal] at passed
      exact .refused normal (ih passed)
    | ok taxonomy =>
      simp only [persistRecords,normal] at passed
      rcases persisted : persistSymbolTaxonomy ⟨run.runId,run.now,taxonomy⟩ scan.tables with ⟨tables,_ | error⟩
      · rw [persisted] at passed
        obtain ⟨row,step⟩ := persist_passed persisted
        exact .persisted normal step (ih passed)
      · rw [persisted] at passed
        cases passed

section records
variable {run : SymbolRun} {source : Text} {records : List SourceRecord} {scan final : RecordScan}

theorem passed_preserves (holds : SymbolTables → Prop)
    (preserved : ∀ {taxonomy before after row}, Persisted ⟨run.runId,run.now,taxonomy⟩ before after row → holds before → holds after)
    (passed : Passed run source records scan final) (initial : holds scan.tables) : holds final.tables := by
  induction passed with
  | nil => exact initial
  | refused reason rest ih => exact ih initial
  | persisted normal step rest ih => exact ih (preserved step initial)

theorem passed_members (passed : Passed run source records scan final) : ∀ taxonomy ∈ taxonomies source records,
    ∃ member ∈ final.tables.membership, member.sourceSnapshotId = run.runId ∧ member.symbol = taxonomy.symbol := by
  induction passed with
  | nil =>
    intro taxonomy inside
    cases inside
  | refused reason rest ih =>
    intro taxonomy inside
    simp only [taxonomies,List.filterMap_cons,reason] at inside
    exact ih taxonomy inside
  | persisted normal step rest ih =>
    intro taxonomy inside
    simp only [taxonomies,List.filterMap_cons,normal] at inside
    rcases List.mem_cons.mp inside with rfl | later
    · obtain ⟨⟨member,listed,same⟩,_⟩ := persisted_member step
      refine ⟨member,?_,same⟩
      exact passed_preserves (fun tables => member ∈ tables.membership) (fun step kept => (persisted_member step).2 member kept) rest listed
    · exact ih taxonomy later

-- No record was refused.
theorem passed_complete (passed : Passed run source records scan final) :
    scan.errors ≤ final.errors ∧ (final.errors = scan.errors → ∀ record ∈ records,
      (normalizeSymbolTaxonomy source record).isOk = true) := by
  induction passed with
  | nil => exact ⟨le_refl _,by simp⟩
  | refused reason rest ih =>
    obtain ⟨counted,_⟩ := ih
    simp only at counted
    exact ⟨by omega,fun same => by omega⟩
  | persisted normal step rest ih =>
    obtain ⟨counted,complete⟩ := ih
    refine ⟨counted,?_⟩
    intro same record inside
    rcases List.mem_cons.mp inside with rfl | later
    · rw [normal]
      rfl
    · exact complete same record later

end records

/- A run. -/

variable {tables : SymbolTables}

omit [SqlCasts] in
-- With every active symbol of the source named, nothing is deactivated.
theorem deactivate_none {snapshotId source : Text}
    (seen : ∀ row ∈ tables.master.rows, unseen snapshotId source tables.membership row = false) :
    (deactivateUnseenSymbols snapshotId source tables).1 = tables := by
  have none : tables.master.rows.filter (unseen snapshotId source tables.membership) = [] := by
    apply List.filter_eq_nil_iff.mpr
    intro row inside
    rw [seen row inside]
    exact Bool.false_ne_true
  simp [deactivateUnseenSymbols,none]

omit [SqlCasts] in
theorem seen_rows {tables after : SymbolTables} (touched : Touched run.runId tables after)
    (members : ∀ taxonomy ∈ taxonomies source records,
      ∃ member ∈ after.membership, member.sourceSnapshotId = run.runId ∧ member.symbol = taxonomy.symbol)
    (named : ∀ row ∈ tables.master.rows, row.isActive = true → row.classificationSource = source →
      ∃ taxonomy ∈ taxonomies source records, taxonomy.symbol = row.symbol) :
    ∀ row ∈ after.master.rows, unseen run.runId source after.membership row = false := by
  intro row inside
  rw [Bool.eq_false_iff]
  intro missing
  simp only [unseen,Bool.and_eq_true,beq_iff_eq,Bool.not_eq_true'] at missing
  obtain ⟨⟨owned,active⟩,absent⟩ := missing
  have present : ∃ member ∈ after.membership, member.sourceSnapshotId = run.runId ∧ member.symbol = row.symbol := by
    rcases touched row inside with old | member
    · obtain ⟨taxonomy,listed,same⟩ := named row old active owned
      rw [← same]
      exact members taxonomy listed
    · exact member
  obtain ⟨member,listed,same⟩ := present
  exact absurd (List.any_eq_false.mp absent member listed) (by simp [same])

theorem sync_agrees (agreed : Agreement tables) (known : Known tables)
    (seen : ¬ LeavesUnseen run tables) : Agreement (syncSymbols run tables).1 ∧ Known (syncSymbols run tables).1 := by
  have persisted : ∀ {source records scan}, persistRecords run source records {tables := tables} = (scan,none) →
      Agreement scan.tables ∧ Known scan.tables := by
    intro source records scan passed
    apply passed_preserves (fun tables => Agreement tables ∧ Known tables) _ (records_passed passed) ⟨agreed,known⟩
    intro taxonomy before after row step kept
    exact ⟨persisted_agrees step kept.1 kept.2,persisted_known step kept.2⟩
  have cases := sync_cases run tables
  generalize syncSymbols run tables = result at cases
  cases cases with
  | refused rejected => exact ⟨agreed,known⟩
  | failed accepted failed => exact ⟨agreed,known⟩
  | kept accepted passed retained => exact persisted passed
  | @deactivated source records scan report accepted passed authoritative complete =>
    have run_ := records_passed passed
    have touched : Touched run.runId tables scan.tables := by
      apply passed_preserves (Touched run.runId tables) _ run_ (fun row inside => .inl inside)
      intro taxonomy before after row step kept
      exact persisted_touched step kept
    have named : ∀ row ∈ tables.master.rows, row.isActive = true → row.classificationSource = source →
        ∃ taxonomy ∈ taxonomies source records, taxonomy.symbol = row.symbol := by
      intro row inside active owned
      by_contra missing
      apply seen
      refine ⟨source,records,accepted,authoritative,(passed_complete run_).2 complete,row,inside,active,owned,?_⟩
      intro taxonomy listed same
      exact missing ⟨taxonomy,listed,same⟩
    rw [deactivate_none (seen_rows touched (passed_members run_) named)]
    exact persisted passed

def SyncRun (condition : SymbolRun → SymbolTables → Prop) (_ : List SymbolRun) (before : SymbolTables) (run : SymbolRun)
    (after : SymbolTables) : Prop :=
  condition run before ∧ after = (syncSymbols run before).1

theorem projection_agrees {history : List SymbolRun} {tables : SymbolTables}
    (path : Runs (SyncRun (fun run before => ¬ LeavesUnseen run before)) emptyTables history tables) : Agreement tables := by
  have both : Agreement tables ∧ Known tables := by
    induction path with
    | nil =>
      refine ⟨?_,?_⟩
      · intro row inside
        cases inside
      · intro key inside
        cases inside
    | step _ ran ih =>
      obtain ⟨seen,rfl⟩ := ran
      exact sync_agrees ih.1 ih.2 seen
  exact both.1

end

/- Two symbols, of which the second snapshot names one. -/

def namedRecord (symbol : String) : SourceRecord := .object [("symbol".toList,some symbol.toList)]

def wholeRun : SymbolRun := sampleRun ['1'] 1 [namedRecord "AAA",namedRecord "BBB"]
def narrowRun : SymbolRun := sampleRun ['2'] 2 [namedRecord "AAA"]

def afterwards (runs : List SymbolRun) : SymbolTables :=
  runs.foldl (fun tables run => (@syncSymbols sampleCasts run tables).1) emptyTables

-- The narrow snapshot deactivates nothing when it is not authoritative.
theorem projection_agrees_sample : (afterwards [wholeRun,{narrowRun with authoritativeSnapshot := false}]).master.rows ≠ [] ∧
    Agreement (afterwards [wholeRun,{narrowRun with authoritativeSnapshot := false}]) := by
  refine ⟨by decide,?_⟩
  apply @projection_agrees sampleCasts [{narrowRun with authoritativeSnapshot := false},wholeRun]
  apply Runs.step
  · apply Runs.step .nil
    refine ⟨?_,rfl⟩
    intro ⟨source,records,accepted,authoritative,complete,row,inside,_⟩
    cases inside
  · refine ⟨?_,rfl⟩
    intro ⟨source,records,accepted,authoritative,_⟩
    cases authoritative

-- An authoritative one rewrites the current row only: the history keeps the symbol active.
theorem projection_disagrees : (¬ ∀ (casts : SqlCasts) (history : List SymbolRun) (tables : SymbolTables),
      Runs (@SyncRun casts (fun _ _ => True)) emptyTables history tables → Agreement tables) ∧
    ((resolveUniverse sampleZone (afterwards [wholeRun,narrowRun]).history (.date sampleDay)).get "BBB".toList).map
      SymbolClassification.lifecycleStatus = some "ACTIVE".toList := by
  refine ⟨?_,by decide⟩
  intro agrees
  have path : Runs (@SyncRun sampleCasts (fun _ _ => True)) emptyTables [narrowRun,wholeRun] (afterwards [wholeRun,narrowRun]) :=
    .step (.step .nil ⟨trivial,rfl⟩) ⟨trivial,rfl⟩
  have inactive : ∃ row ∈ (afterwards [wholeRun,narrowRun]).master.rows,
      row.symbol = "BBB".toList ∧ row.lifecycleStatus = "INACTIVE".toList := by decide
  have active : ∀ revision ∈ openRevisions (afterwards [wholeRun,narrowRun]).history "BBB".toList,
      revision.lifecycleStatus = "ACTIVE".toList := by decide
  obtain ⟨row,inside,named,status⟩ := inactive
  obtain ⟨revision,opened,_,same⟩ := agrees sampleCasts _ _ path row inside
  rw [named] at opened
  have kept := active revision (by rw [opened]; exact List.mem_singleton.mpr rfl)
  rw [same,status] at kept
  exact absurd kept (by decide)

end OpenStock.Ingestion
