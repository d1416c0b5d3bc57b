import OpenStock.CorporateActions.Synchronization
import OpenStock.Warehouse.SymbolLifecycle

namespace OpenStock.Ingestion
open Text Calendar Warehouse
open CorporateActions (RefusedResponse validatePersistenceSource)

/- `sync_symbols`: one provider response persisted in one transaction. -/

structure SymbolResponse where
  dataset : Text
  provider : Text
  qualityStatus : Option Text
  data : List SourceRecord

-- A call, with the id `create_ingestion_run` gives it and the `current_timestamp`
-- of its transaction. No response: the client raised.
structure SymbolRun where
  runId : Text
  now : Int
  source : Option Text
  authoritativeSnapshot : Bool
  response : Option SymbolResponse

-- What ends a run before its first record, with the texts of the ValueErrors.
inductive RefusedSnapshot where
  | client
  | unapprovedSource
  | unexpectedDataset
  | emptyProvider
  | providerMismatch
  | providerQuality
  | emptyResponse
deriving DecidableEq

inductive SnapshotError where
  | refused (reason : RefusedSnapshot)
  | database (error : PersistError)
deriving DecidableEq

inductive SnapshotStatus where
  | success
  | partial_
deriving DecidableEq

structure SnapshotReport where
  deactivated : Nat
  errors : Nat
  synced : Nat
  snapshotStatus : SnapshotStatus
deriving DecidableEq

def approvedSource (source : Option Text) : Except RefusedSnapshot (Option Text) :=
  (validatePersistenceSource source).mapError (fun _ => .unapprovedSource)

-- The provider and the records of a response that passes all checks.
def acceptedRecords (run : SymbolRun) : Except RefusedSnapshot (Text × List SourceRecord) := do
  let source ← approvedSource run.source
  match run.response with
  | none => .error .client
  | some response =>
    if strip response.dataset ≠ "reference.symbols".toList then .error .unexpectedDataset
    match ← approvedSource (some response.provider) with
    | none => .error .emptyProvider
    | some provider =>
      if source.any (fun source => provider ≠ source) then .error .providerMismatch
      if upper (strip (response.qualityStatus.getD [])) ∉ ["PASS".toList,"SUCCESS".toList] then .error .providerQuality
      if response.data = [] then .error .emptyResponse
      return (provider,response.data)

structure RecordScan where
  tables : SymbolTables
  observed : Nat := 0
  synced : Nat := 0
  errors : Nat := 0

section
variable [SqlCasts]

-- A record the normalization refuses is counted; a database error ends the run.
def persistRecords (run : SymbolRun) (source : Text) : List SourceRecord → RecordScan → RecordScan × Option PersistError
  | [],scan => (scan,none)
  | record :: records,scan =>
    match normalizeSymbolTaxonomy source record with
    | .error _ => persistRecords run source records {scan with observed := scan.observed + 1,errors := scan.errors + 1}
    | .ok taxonomy =>
      match persistSymbolTaxonomy ⟨run.runId,run.now,taxonomy⟩ scan.tables with
      | (tables,some error) => ({scan with tables := tables,observed := scan.observed + 1},some error)
      | (tables,none) =>
        persistRecords run source records
          {scan with tables := tables,observed := scan.observed + 1,synced := scan.synced + 1}

-- Every error is raised again after the transaction was rolled back.
def syncSymbols (run : SymbolRun) (tables : SymbolTables) : SymbolTables × Except SnapshotError SnapshotReport :=
  match acceptedRecords run with
  | .error reason => (tables,.error (.refused reason))
  | .ok (source,records) =>
    match persistRecords run source records {tables := tables} with
    | (_,some error) => (tables,.error (.database error))
    | (scan,none) =>
      let status : SnapshotStatus := if scan.errors = 0 then .success else .partial_
      if run.authoritativeSnapshot = true ∧ status = .success then
        let (after,deactivated) := deactivateUnseenSymbols run.runId source scan.tables
        (after,.ok ⟨deactivated,scan.errors,scan.synced,status⟩)
      else (scan.tables,.ok ⟨0,scan.errors,scan.synced,status⟩)

/- What a run does to the history: the records that name a symbol, one by one. -/

-- Every text that is cast can be read.
def readable (taxonomy : SymbolTaxonomy) : Bool :=
  taxonomy.effectiveFrom.all (fun text => (SqlCasts.timestamptz text).isSome) &&
    taxonomy.listingDate.all (fun text => (SqlCasts.date text).isSome) &&
    taxonomy.delistingDate.all (fun text => (SqlCasts.date text).isSome)

def revise (call : PersistCall) (history : ClassificationHistory) : ClassificationHistory × Option PersistError :=
  if readable call.taxonomy then recordClassificationRevision call history else (history,some .conversion)

def reviseEach (run : SymbolRun) : List SymbolTaxonomy → ClassificationHistory → ClassificationHistory × Option PersistError
  | [],history => (history,none)
  | taxonomy :: rest,history =>
    match revise ⟨run.runId,run.now,taxonomy⟩ history with
    | (after,some error) => (after,some error)
    | (after,none) => reviseEach run rest after

variable {call : PersistCall}

theorem readable_casts : readable call.taxonomy = true ↔ ∃ instant listing delisting,
    call.effectiveFrom = some instant ∧ dateColumn call.taxonomy.listingDate = some listing ∧
      dateColumn call.taxonomy.delistingDate = some delisting := by
  have column : ∀ text : Option Text, text.all (fun text => (SqlCasts.date text).isSome) = true ↔
      ∃ day, dateColumn text = some day := by
    intro text
    cases text with
    | none => simp [dateColumn]
    | some text => cases read : SqlCasts.date text <;> simp [dateColumn,read]
  have instant : call.taxonomy.effectiveFrom.all (fun text => (SqlCasts.timestamptz text).isSome) = true ↔
      ∃ instant, call.effectiveFrom = some instant := by
    unfold PersistCall.effectiveFrom
    cases call.taxonomy.effectiveFrom with
    | none => simp
    | some text => simp [Option.isSome_iff_exists]
  rw [readable,Bool.and_eq_true,Bool.and_eq_true,column,column,instant]
  constructor
  · intro ⟨⟨⟨one,first⟩,two,second⟩,three,third⟩
    exact ⟨one,two,three,first,second,third⟩
  · intro ⟨one,two,three,first,second,third⟩
    exact ⟨⟨⟨one,first⟩,two,second⟩,three,third⟩

theorem upsert_readable (call : PersistCall) (master : SymbolMaster) :
    (readable call.taxonomy = true ∧ ∃ after, upsertCurrentSymbol call master = .ok after) ∨
      readable call.taxonomy = false ∧ upsertCurrentSymbol call master = .error .conversion := by
  by_cases read : readable call.taxonomy = true
  · obtain ⟨instant,listing,delisting,first,second,third⟩ := readable_casts.mp read
    refine .inl ⟨read,?_⟩
    rw [upsertCurrentSymbol,first,second,third]
    exact ⟨_,rfl⟩
  · refine .inr ⟨Bool.eq_false_iff.mpr read,?_⟩
    rw [readable_casts] at read
    unfold upsertCurrentSymbol
    split
    · rename_i first second third
      exact absurd ⟨_,_,_,first,second,third⟩ read
    · rfl

theorem persist_history (call : PersistCall) (tables : SymbolTables) :
    ((persistSymbolTaxonomy call tables).1.history,(persistSymbolTaxonomy call tables).2) = revise call tables.history := by
  unfold persistSymbolTaxonomy revise
  rcases upsert_readable call tables.master with ⟨read,after,upserted⟩ | ⟨unread,refused⟩
  · rw [upserted,if_pos read]
    rcases recorded : recordClassificationRevision call tables.history with ⟨history,error⟩
    cases error <;> rfl
  · rw [refused,unread]
    rfl

variable (run : SymbolRun)

theorem persistRecords_history (source : Text) (records : List SourceRecord) (scan : RecordScan) :
    ((persistRecords run source records scan).1.tables.history,(persistRecords run source records scan).2) =
      reviseEach run (taxonomies source records) scan.tables.history := by
  induction records generalizing scan with
  | nil => rfl
  | cons record records ih =>
    cases normal : normalizeSymbolTaxonomy source record with
    | error refused =>
      have skipped : taxonomies source (record :: records) = taxonomies source records := by
        simp [taxonomies,normal,Except.toOption]
      simp only [persistRecords,normal,skipped]
      exact ih _
    | ok taxonomy =>
      have named : taxonomies source (record :: records) = taxonomy :: taxonomies source records := by
        simp [taxonomies,normal,Except.toOption]
      have one := persist_history ⟨run.runId,run.now,taxonomy⟩ scan.tables
      simp only [persistRecords,normal,named,reviseEach,← one]
      rcases persisted : persistSymbolTaxonomy ⟨run.runId,run.now,taxonomy⟩ scan.tables with ⟨tables,error⟩
      cases error with
      | some error => rfl
      | none => exact ih _

/- One revision. -/

def keys (history : ClassificationHistory) : List (Text × Int × Text) := history.rows.map HistoryRow.key

def dated (taxonomy : SymbolTaxonomy) : Bool := taxonomy.listingDate.isSome || taxonomy.delistingDate.isSome

variable {history : ClassificationHistory} {taxonomy : SymbolTaxonomy}

omit [SqlCasts] in
-- A stored date never equals the text it was read from.
theorem dated_differs (carries : dated taxonomy = true) : ¬ Recorded history taxonomy := by
  intro recorded
  obtain ⟨row,_,same⟩ := Option.map_eq_some_iff.mp recorded
  have listing : PyValue.ofDate row.listingDate = PyValue.ofText taxonomy.listingDate :=
    Option.some.inj (congrArg (fun values : List PyValue => values[3]?) same)
  have delisting : PyValue.ofDate row.delistingDate = PyValue.ofText taxonomy.delistingDate :=
    Option.some.inj (congrArg (fun values : List PyValue => values[4]?) same)
  rcases Bool.or_eq_true_iff.mp carries with listed | delisted
  · obtain ⟨text,present⟩ := Option.isSome_iff_exists.mp listed
    rw [present] at listing
    cases stored : row.listingDate <;> simp [stored,PyValue.ofDate,PyValue.ofText] at listing
  · obtain ⟨text,present⟩ := Option.isSome_iff_exists.mp delisted
    rw [present] at delisting
    cases stored : row.delistingDate <;> simp [stored,PyValue.ofDate,PyValue.ofText] at delisting

omit [SqlCasts] in
theorem close_keys (history : ClassificationHistory) (symbol : Text) (ending : Int) :
    keys (closeRevisions history symbol ending) = keys history := by
  simp only [keys,closeRevisions,Temporal.close,Rows.updateWhere,List.map_map]
  apply List.map_congr_left
  intro row _
  by_cases met : (row.symbol == symbol && row.effectiveTo.isNone) = true
  · simp only [Function.comp,if_pos met]
    rfl
  · simp only [Function.comp,if_neg met]

omit [SqlCasts] in
theorem close_openRevisions (history : ClassificationHistory) (symbol other : Text) (ending : Int) :
    openRevisions (closeRevisions history symbol ending) other =
      if other = symbol then [] else openRevisions history other := by
  split
  · rename_i same
    rw [same]
    exact Temporal.close_open (fun _ => rfl)
  · rename_i differs
    apply Temporal.close_others
    · intro row
      rfl
    · intro row met
      have named : row.symbol = other := beq_iff_eq.mp (Bool.and_eq_true_iff.mp met).1
      exact beq_eq_false_iff_ne.mpr (fun same => differs (named.symm.trans same))

-- The revision written: where it stands, and what is open afterwards.
structure Written (call : PersistCall) (history after : ClassificationHistory) (row : HistoryRow) : Prop where
  symbol : row.symbol = call.taxonomy.symbol
  snapshot : row.sourceSnapshotId = call.snapshotId
  started : call.effectiveFrom = some row.effectiveFrom
  listed : dateColumn call.taxonomy.listingDate = some row.listingDate
  delisted : dateColumn call.taxonomy.delistingDate = some row.delistingDate
  classified : row.securityType = call.taxonomy.securityType ∧ row.lifecycleStatus = call.taxonomy.lifecycleStatus
  recorded : dated call.taxonomy = false → row.values = classificationValues call.taxonomy
  keyed : keys after = keys history ++ [row.key]
  opened : openRevisions after call.taxonomy.symbol = [row]
  others : ∀ symbol, symbol ≠ call.taxonomy.symbol → openRevisions after symbol = openRevisions history symbol

-- What one record can do.
inductive Revised (call : PersistCall) (history : ClassificationHistory) :
    ClassificationHistory × Option PersistError → Prop where
  | unreadable (unread : readable call.taxonomy = false) : Revised call history (history,some .conversion)
  | unchanged (read : readable call.taxonomy = true) (recorded : Recorded history call.taxonomy) :
      Revised call history (history,none)
  | clash {row : HistoryRow} (read : readable call.taxonomy = true) (changed : ¬ Recorded history call.taxonomy)
      (started : call.effectiveFrom = some row.effectiveFrom)
      (present : (call.taxonomy.symbol,row.effectiveFrom,call.snapshotId) ∈ keys history)
      (after : ClassificationHistory) : Revised call history (after,some .duplicateKey)
  | written {row : HistoryRow} {after : ClassificationHistory} (read : readable call.taxonomy = true)
      (changed : ¬ Recorded history call.taxonomy) (fresh : row.key ∉ keys history)
      (written : Written call history after row) : Revised call history (after,none)

theorem undated_values (plain : dated call.taxonomy = false) (listed : dateColumn call.taxonomy.listingDate = some listing)
    (delisted : dateColumn call.taxonomy.delistingDate = some delisting) :
    (revisionRow call instant listing delisting).values = classificationValues call.taxonomy := by
  obtain ⟨first,second⟩ := Bool.or_eq_false_iff.mp plain
  have unlisted : call.taxonomy.listingDate = none := Option.not_isSome_iff_eq_none.mp (by rw [first]; exact Bool.false_ne_true)
  have kept : call.taxonomy.delistingDate = none := Option.not_isSome_iff_eq_none.mp (by rw [second]; exact Bool.false_ne_true)
  rw [unlisted] at listed
  rw [kept] at delisted
  cases listed
  cases delisted
  simp only [HistoryRow.values,classificationValues,revisionRow,unlisted,kept]
  rfl

theorem revise_cases (call : PersistCall) (history : ClassificationHistory) : Revised call history (revise call history) := by
  by_cases read : readable call.taxonomy = true
  · rw [revise,if_pos read,recordClassificationRevision]
    by_cases recorded : Recorded history call.taxonomy
    · rw [if_pos recorded]
      exact .unchanged read recorded
    · obtain ⟨instant,listing,delisting,started,listed,delisted⟩ := readable_casts.mp read
      rw [if_neg recorded,started]
      simp only [listed,delisted]
      have closed : (closeRevisions history call.taxonomy.symbol instant).rows.map HistoryRow.key = keys history :=
        close_keys history call.taxonomy.symbol instant
      unfold insertRevision
      by_cases present : (revisionRow call instant listing delisting).key ∈
          (closeRevisions history call.taxonomy.symbol instant).rows.map HistoryRow.key
      · rw [dif_pos present]
        have known : (revisionRow call instant listing delisting).key ∈ keys history := closed ▸ present
        exact .clash read recorded started known _
      · rw [dif_neg present]
        refine .written read recorded ?_ ⟨rfl,rfl,started,listed,delisted,
          ⟨rfl,rfl⟩,fun plain => undated_values plain listed delisted,?_,?_,?_⟩
        · intro known
          exact present (by rw [closed]; exact known)
        · rw [← closed]
          exact List.map_append
        · have before := close_openRevisions history call.taxonomy.symbol call.taxonomy.symbol instant
          rw [if_pos rfl] at before
          simp only [openRevisions] at before ⊢
          rw [List.filter_append,before]
          simp [revisionRow]
        · intro symbol differs
          have before := close_openRevisions history call.taxonomy.symbol symbol instant
          rw [if_neg differs] at before
          simp only [openRevisions] at before ⊢
          rw [List.filter_append,before]
          simp [revisionRow,Ne.symm differs]
  · rw [revise,if_neg read]
    exact .unreadable (Bool.eq_false_iff.mpr read)

omit [SqlCasts] in
theorem recorded_open (same : openRevisions after taxonomy.symbol = openRevisions before taxonomy.symbol) :
    Recorded after taxonomy ↔ Recorded before taxonomy := by
  unfold Recorded currentRevision
  rw [same]

variable {row : HistoryRow}

theorem written_recorded {history after : ClassificationHistory}
    (written : Written call history after row) (plain : dated call.taxonomy = false) : Recorded after call.taxonomy := by
  unfold Recorded currentRevision
  rw [written.opened]
  exact congrArg some (written.recorded plain)

theorem written_key {history after : ClassificationHistory}
    (written : Written call history after row) : row.key = (call.taxonomy.symbol,row.effectiveFrom,call.snapshotId) := by
  rw [HistoryRow.key,written.symbol,written.snapshot]

/- All records of a response. -/

-- A dated record met again before any unreadable one.
def clashes (earlier : List SymbolTaxonomy) : List SymbolTaxonomy → Bool
  | [] => false
  | taxonomy :: rest =>
    readable taxonomy && (dated taxonomy && decide (taxonomy ∈ earlier) || clashes (taxonomy :: earlier) rest)

-- What the records so far have left in the history.
structure Processed (run : SymbolRun) (earlier : List SymbolTaxonomy) (history : ClassificationHistory) : Prop where
  owned : ∀ key ∈ keys history, key.2.2 = run.runId → ∃ taxonomy ∈ earlier, taxonomy.symbol = key.1
  stored : ∀ taxonomy ∈ earlier, dated taxonomy = true → ∃ instant,
    PersistCall.effectiveFrom ⟨run.runId,run.now,taxonomy⟩ = some instant ∧ (taxonomy.symbol,instant,run.runId) ∈ keys history
  plain : ∀ taxonomy ∈ earlier, dated taxonomy = false → Recorded history taxonomy

def Identical (taxonomies : List SymbolTaxonomy) : Prop :=
  ∀ left ∈ taxonomies, ∀ right ∈ taxonomies, left.symbol = right.symbol → left = right

section processed
variable {run : SymbolRun} {earlier : List SymbolTaxonomy} {taxonomy : SymbolTaxonomy} {history : ClassificationHistory}

theorem processed_recorded (processed : Processed run earlier history) (recorded : Recorded history taxonomy) :
    Processed run (taxonomy :: earlier) history := by
  refine ⟨?_,?_,?_⟩
  · intro key inside owned
    obtain ⟨other,listed,named⟩ := processed.owned key inside owned
    exact ⟨other,List.mem_cons_of_mem taxonomy listed,named⟩
  · intro other listed carries
    rcases List.mem_cons.mp listed with rfl | before
    · exact absurd recorded (dated_differs carries)
    · exact processed.stored other before carries
  · intro other listed plain
    rcases List.mem_cons.mp listed with rfl | before
    · exact recorded
    · exact processed.plain other before plain

theorem processed_written (processed : Processed run earlier history) (new : ∀ other ∈ earlier, other.symbol ≠ taxonomy.symbol)
    (written : Written ⟨run.runId,run.now,taxonomy⟩ history after row) : Processed run (taxonomy :: earlier) after := by
  refine ⟨?_,?_,?_⟩
  · intro key inside owned
    rw [written.keyed] at inside
    rcases List.mem_append.mp inside with before | latest
    · obtain ⟨other,listed,named⟩ := processed.owned key before owned
      exact ⟨other,List.mem_cons_of_mem taxonomy listed,named⟩
    · rw [List.mem_singleton.mp latest]
      exact ⟨taxonomy,List.mem_cons_self,written.symbol.symm⟩
  · intro other listed carries
    rw [written.keyed]
    rcases List.mem_cons.mp listed with rfl | before
    · refine ⟨row.effectiveFrom,written.started,List.mem_append_right _ ?_⟩
      exact List.mem_singleton.mpr (written_key written).symm
    · obtain ⟨instant,started,present⟩ := processed.stored other before carries
      exact ⟨instant,started,List.mem_append_left _ present⟩
  · intro other listed plain
    rcases List.mem_cons.mp listed with rfl | before
    · exact written_recorded written plain
    · exact (recorded_open (written.others other.symbol (new other before))).mpr (processed.plain other before plain)

-- One record after the others.
inductive Processing (run : SymbolRun) (earlier : List SymbolTaxonomy) (taxonomy : SymbolTaxonomy) :
    ClassificationHistory × Option PersistError → Prop where
  | unreadable (unread : readable taxonomy = false) : Processing run earlier taxonomy (after,some .conversion)
  | repeated (read : readable taxonomy = true) (carries : dated taxonomy = true) (seen : taxonomy ∈ earlier) :
      Processing run earlier taxonomy (after,some .duplicateKey)
  | done (read : readable taxonomy = true) (single : ¬ (dated taxonomy = true ∧ taxonomy ∈ earlier))
      (processed : Processed run (taxonomy :: earlier) after) : Processing run earlier taxonomy (after,none)

theorem processed_step (processed : Processed run earlier history) (identical : Identical (taxonomy :: earlier)) :
    Processing run earlier taxonomy (revise ⟨run.runId,run.now,taxonomy⟩ history) := by
  have step := revise_cases ⟨run.runId,run.now,taxonomy⟩ history
  have same : ∀ other ∈ earlier, other.symbol = taxonomy.symbol → other = taxonomy := fun other listed =>
    identical other (List.mem_cons_of_mem taxonomy listed) taxonomy List.mem_cons_self
  generalize revise ⟨run.runId,run.now,taxonomy⟩ history = revised at step
  cases step with
  | unreadable unread => exact .unreadable unread
  | unchanged read recorded =>
    exact .done read (fun repeated => dated_differs repeated.1 recorded) (processed_recorded processed recorded)
  | clash read changed started present after =>
    obtain ⟨other,listed,named⟩ := processed.owned _ present rfl
    have seen : taxonomy ∈ earlier := same other listed named ▸ listed
    cases carries : dated taxonomy with
    | true => exact .repeated read carries seen
    | false => exact absurd (processed.plain taxonomy seen carries) changed
  | written read changed fresh written =>
    have unseen : ¬ taxonomy ∈ earlier := by
      intro seen
      cases carries : dated taxonomy with
      | false => exact changed (processed.plain taxonomy seen carries)
      | true =>
        obtain ⟨instant,started,present⟩ := processed.stored taxonomy seen carries
        have instants := Option.some.inj (started.symm.trans written.started)
        rw [written_key written,← instants] at fresh
        exact fresh present
    apply Processing.done read (fun repeated => unseen repeated.2)
    apply processed_written processed _ written
    intro other listed named
    exact unseen (same other listed named ▸ listed)

omit [SqlCasts] in
theorem identical_subset {some all : List SymbolTaxonomy} (included : ∀ taxonomy ∈ some, taxonomy ∈ all)
    (identical : Identical all) : Identical some := by
  intro left inside right listed
  exact identical left (included left inside) right (included right listed)

-- All records after the others.
inductive Outcome (run : SymbolRun) (earlier rest : List SymbolTaxonomy) :
    ClassificationHistory × Option PersistError → Prop where
  | repeated (repeats : clashes earlier rest = true) : Outcome run earlier rest (after,some .duplicateKey)
  | unreadable (single : clashes earlier rest = false) (unread : ∃ taxonomy ∈ rest, readable taxonomy = false) :
      Outcome run earlier rest (after,some .conversion)
  | done (single : clashes earlier rest = false) (read : ∀ taxonomy ∈ rest, readable taxonomy = true)
      (listed : ∀ taxonomy, taxonomy ∈ rest ∨ taxonomy ∈ earlier → taxonomy ∈ all) (processed : Processed run all after) :
      Outcome run earlier rest (after,none)

theorem reviseEach_outcome (processed : Processed run earlier history)
    (identical : Identical (rest ++ earlier)) : Outcome run earlier rest (reviseEach run rest history) := by
  induction rest generalizing earlier history with
  | nil => exact .done rfl (by simp) (by simp) processed
  | cons taxonomy rest ih =>
    have front : Identical (taxonomy :: earlier) := by
      apply identical_subset _ identical
      intro other inside
      rcases List.mem_cons.mp inside with rfl | before
      · exact List.mem_append_left _ List.mem_cons_self
      · exact List.mem_append_right _ before
    have moved : Identical (rest ++ taxonomy :: earlier) := by
      apply identical_subset _ identical
      intro other inside
      exact (List.perm_middle.mem_iff).mp inside
    have step := processed_step processed front
    rw [reviseEach]
    generalize revise ⟨run.runId,run.now,taxonomy⟩ history = revised at step
    cases step with
    | unreadable unread =>
      apply Outcome.unreadable
      · rw [clashes,unread,Bool.false_and]
      · exact ⟨taxonomy,List.mem_cons_self,unread⟩
    | repeated read carries seen =>
      apply Outcome.repeated
      simp [clashes,read,carries,seen]
    | done read single processed =>
      have later := ih processed moved
      have front : clashes earlier (taxonomy :: rest) = clashes (taxonomy :: earlier) rest := by
        have none : (dated taxonomy && decide (taxonomy ∈ earlier)) = false := by simpa using single
        rw [clashes,read,none,Bool.true_and,Bool.false_or]
      simp only
      generalize reviseEach run rest _ = revised at later
      cases later with
      | repeated repeats => exact .repeated (front.trans repeats)
      | unreadable none unread =>
        obtain ⟨other,inside,unread⟩ := unread
        exact .unreadable (front.trans none) ⟨other,List.mem_cons_of_mem taxonomy inside,unread⟩
      | done none all listed processed =>
        apply Outcome.done (front.trans none) (List.forall_mem_cons.mpr ⟨read,all⟩) _ processed
        intro other inside
        rcases inside with current | before
        · rcases List.mem_cons.mp current with rfl | after
          · exact listed other (.inr List.mem_cons_self)
          · exact listed other (.inl after)
        · exact listed other (.inr (List.mem_cons_of_mem taxonomy before))

end processed

/- Two runs over one response. -/

-- The records of an accepted response that name a symbol.
def contents (run : SymbolRun) : Option (List SymbolTaxonomy) :=
  (acceptedRecords run).toOption.map (fun accepted => taxonomies accepted.1 accepted.2)

-- What a run can do.
inductive Synced (run : SymbolRun) (tables : SymbolTables) : SymbolTables × Except SnapshotError SnapshotReport → Prop where
  | refused (rejected : acceptedRecords run = .error reason) : Synced run tables (tables,.error (.refused reason))
  | failed (accepted : acceptedRecords run = .ok (source,records))
      (failed : (persistRecords run source records {tables := tables}).2 = some error) :
      Synced run tables (tables,.error (.database error))
  | kept (accepted : acceptedRecords run = .ok (source,records))
      (persisted : persistRecords run source records {tables := tables} = (scan,none))
      (retained : ¬ (run.authoritativeSnapshot = true ∧ scan.errors = 0)) :
      Synced run tables (scan.tables,.ok report)
  | deactivated (accepted : acceptedRecords run = .ok (source,records))
      (persisted : persistRecords run source records {tables := tables} = (scan,none))
      (authoritative : run.authoritativeSnapshot = true) (complete : scan.errors = 0) :
      Synced run tables ((deactivateUnseenSymbols run.runId source scan.tables).1,.ok report)

theorem sync_cases (tables : SymbolTables) : Synced run tables (syncSymbols run tables) := by
  unfold syncSymbols
  rcases accepted : acceptedRecords run with reason | ⟨source,records⟩
  · exact .refused accepted
  · simp only
    rcases persisted : persistRecords run source records {tables := tables} with ⟨scan,_ | error⟩
    · simp only
      by_cases complete : scan.errors = 0
      · rw [if_pos complete]
        by_cases authoritative : run.authoritativeSnapshot = true
        · rw [if_pos ⟨authoritative,rfl⟩]
          exact .deactivated accepted persisted authoritative complete
        · rw [if_neg (fun both => authoritative both.1)]
          exact .kept accepted persisted (fun both => authoritative both.1)
      · rw [if_neg complete,if_neg (fun both => by cases both.2)]
        exact .kept accepted persisted (fun both => complete both.2)
    · exact .failed accepted (congrArg Prod.snd persisted)

omit [SqlCasts] in
theorem deactivate_history (snapshotId source : Text) (tables : SymbolTables) :
    (deactivateUnseenSymbols snapshotId source tables).1.history = tables.history := by
  unfold deactivateUnseenSymbols
  simp only
  split <;> rfl

variable {run : SymbolRun} (tables : SymbolTables)

theorem sync_refused (empty : contents run = none) :
    (syncSymbols run tables).1 = tables ∧ ∀ error, (syncSymbols run tables).2 ≠ .error (.database error) := by
  have unaccepted : ∀ accepted, acceptedRecords run ≠ .ok accepted := by
    intro accepted same
    simp [contents,same,Except.toOption] at empty
  have cases := sync_cases run tables
  generalize syncSymbols run tables = result at cases
  cases cases with
  | refused rejected => exact ⟨rfl,fun error same => by cases same⟩
  | failed accepted | kept accepted | deactivated accepted => exact absurd accepted (unaccepted _)

-- The history of a run: committed or rolled back.
inductive Recording (history : ClassificationHistory) : ClassificationHistory × Option PersistError →
    SymbolTables × Except SnapshotError SnapshotReport → Prop where
  | committed (kept : result.1.history = after) (passed : ∀ error, result.2 ≠ .error (.database error)) :
      Recording history (after,none) result
  | rolledBack (kept : result.1.history = history) (failed : result.2 = .error (.database error)) :
      Recording history (after,some error) result

variable {named : List SymbolTaxonomy}

theorem sync_recording (accepted : contents run = some named) :
    Recording tables.history (reviseEach run named tables.history) (syncSymbols run tables) := by
  have cases := sync_cases run tables
  have revised : ∀ {source records}, acceptedRecords run = .ok (source,records) →
      ((persistRecords run source records {tables := tables}).1.tables.history,
        (persistRecords run source records {tables := tables}).2) = reviseEach run named tables.history := by
    intro source records same
    have taken : taxonomies source records = named := by
      rw [contents,same] at accepted
      exact Option.some.inj accepted
    rw [← taken]
    exact persistRecords_history run source records {tables := tables}
  generalize syncSymbols run tables = result at cases
  cases cases with
  | refused rejected =>
    rw [contents,rejected] at accepted
    cases accepted
  | failed same failed =>
    rw [← revised same,failed]
    exact .rolledBack rfl rfl
  | kept same persisted =>
    rw [← revised same,persisted]
    exact .committed rfl (fun error wrong => by cases wrong)
  | deactivated same persisted =>
    rw [← revised same,persisted]
    exact .committed (deactivate_history _ _ _) (fun error wrong => by cases wrong)

-- A second run leaves the history as the first one left it, and no record is
-- refused because it was met before.
structure Repeatable (tables : SymbolTables) (first second : SymbolRun) : Prop where
  unchanged : (syncSymbols second (syncSymbols first tables).1).1.history = (syncSymbols first tables).1.history
  once : (syncSymbols first tables).2 ≠ .error (.database .duplicateKey)
  twice : (syncSymbols second (syncSymbols first tables).1).2 ≠ .error (.database .duplicateKey)

theorem reviseEach_recorded
    (read : ∀ taxonomy ∈ named, readable taxonomy = true) (recorded : ∀ taxonomy ∈ named, Recorded history taxonomy) :
    reviseEach run named history = (history,none) := by
  induction named with
  | nil => rfl
  | cons taxonomy named ih =>
    have same : revise ⟨run.runId,run.now,taxonomy⟩ history = (history,none) := by
      rw [revise,if_pos (read taxonomy List.mem_cons_self),recordClassificationRevision]
      exact if_pos (recorded taxonomy List.mem_cons_self)
    rw [reviseEach,same]
    exact ih (fun other inside => read other (List.mem_cons_of_mem taxonomy inside))
      (fun other inside => recorded other (List.mem_cons_of_mem taxonomy inside))

theorem reviseEach_keys {history after : ClassificationHistory}
    (ran : reviseEach run named history = (after,none)) : ∀ key ∈ keys after, key ∈ keys history ∨ key.2.2 = run.runId := by
  induction named generalizing history with
  | nil =>
    cases ran
    intro key inside
    exact .inl inside
  | cons taxonomy named ih =>
    rw [reviseEach] at ran
    have step := revise_cases ⟨run.runId,run.now,taxonomy⟩ history
    generalize revise ⟨run.runId,run.now,taxonomy⟩ history = revised at step ran
    cases step with
    | unreadable unread => cases ran
    | unchanged read recorded => exact ih ran
    | clash read changed started present after => cases ran
    | written read changed fresh written =>
      intro key inside
      rcases ih ran key inside with before | own
      · rw [written.keyed] at before
        rcases List.mem_append.mp before with known | latest
        · exact .inl known
        · rw [List.mem_singleton.mp latest]
          exact .inr written.snapshot
      · exact .inr own

theorem processed_start (fresh : ∀ key ∈ keys history, key.2.2 ≠ run.runId) : Processed run [] history := by
  refine ⟨?_,?_,?_⟩
  · intro key inside owned
    exact absurd owned (fresh key inside)
  · intro taxonomy inside
    cases inside
  · intro taxonomy inside
    cases inside

-- No date is carried, or the transaction is rolled back for a text that cannot be
-- read before any dated record is met again.
def Unvarying (named : List SymbolTaxonomy) : Prop :=
  (∀ taxonomy ∈ named, dated taxonomy = false) ∨
    clashes [] named = false ∧ ∃ taxonomy ∈ named, readable taxonomy = false

theorem plain_unclashed {earlier named : List SymbolTaxonomy} (plain : ∀ taxonomy ∈ named, dated taxonomy = false) :
    clashes earlier named = false := by
  induction named generalizing earlier with
  | nil => rfl
  | cons taxonomy named ih =>
    rw [clashes,plain taxonomy List.mem_cons_self,Bool.false_and,Bool.false_or,
      ih (fun other inside => plain other (List.mem_cons_of_mem taxonomy inside)),Bool.and_false]

section twice
variable {tables : SymbolTables} {first second : SymbolRun} {named : List SymbolTaxonomy}

theorem repeatable_contents (accepted : contents first = some named) (again : contents second = some named)
    (identical : Identical named) (differ : second.runId ≠ first.runId)
    (fresh : ∀ key ∈ keys tables.history, key.2.2 ≠ first.runId ∧ key.2.2 ≠ second.runId) :
    Repeatable tables first second ↔ Unvarying named := by
  have whole : Identical (named ++ []) := by rwa [List.append_nil]
  have one := reviseEach_outcome (processed_start (fun key inside => (fresh key inside).1) : Processed first [] tables.history) whole
  have recording := sync_recording tables accepted
  generalize ran : reviseEach first named tables.history = revised at one recording
  cases one with
  | repeated repeats =>
    cases recording with
    | rolledBack kept failed =>
      constructor
      · intro repeatable
        exact absurd failed repeatable.once
      · rintro (plain | ⟨single,_⟩)
        · exact absurd repeats (by rw [plain_unclashed plain]; exact Bool.false_ne_true)
        · exact absurd repeats (by rw [single]; exact Bool.false_ne_true)
  | unreadable single unread =>
    cases recording with
    | rolledBack kept failed =>
      have two := reviseEach_outcome (processed_start (fun key inside => (fresh key inside).2) : Processed second [] tables.history) whole
      have later := sync_recording (syncSymbols first tables).1 again
      rw [kept] at later
      generalize reviseEach second named tables.history = revised at two later
      constructor
      · intro _
        exact .inr ⟨single,unread⟩
      · intro _
        cases two with
        | repeated repeats => exact absurd repeats (by rw [single]; exact Bool.false_ne_true)
        | unreadable _ _ =>
          cases later with
          | rolledBack same refused =>
            refine ⟨same.trans kept.symm,?_,?_⟩
            · rw [failed]
              exact fun wrong => by cases wrong
            · rw [refused]
              exact fun wrong => by cases wrong
        | done _ read _ _ =>
          obtain ⟨taxonomy,inside,not⟩ := unread
          exact absurd (read taxonomy inside) (by rw [not]; exact Bool.false_ne_true)
  | done single read listed processed =>
    cases recording with
    | committed kept passed =>
      have later := sync_recording (syncSymbols first tables).1 again
      rw [kept] at later
      have unread : ¬ ∃ taxonomy ∈ named, readable taxonomy = false := by
        rintro ⟨taxonomy,inside,not⟩
        exact absurd (read taxonomy inside) (by rw [not]; exact Bool.false_ne_true)
      constructor
      · intro repeatable
        refine .inl ?_
        intro taxonomy inside
        cases carries : dated taxonomy with
        | false => rfl
        | true =>
          have mine : ∀ key ∈ keys (syncSymbols first tables).1.history, key.2.2 ≠ second.runId := by
            rw [kept]
            intro key known
            rcases reviseEach_keys ran key known with before | own
            · exact (fresh key before).2
            · rw [own]
              exact Ne.symm differ
          rw [kept] at mine
          have two := reviseEach_outcome (processed_start mine : Processed second [] _) whole
          generalize reviseEach second named _ = revised at two later
          cases two with
          | repeated repeats => exact absurd repeats (by rw [single]; exact Bool.false_ne_true)
          | unreadable _ not => exact absurd not unread
          | done _ _ all again =>
            cases later with
            | committed same _ =>
              obtain ⟨instant,_,present⟩ := again.stored taxonomy (all taxonomy (.inl inside)) carries
              rw [← same,repeatable.unchanged,kept] at present
              exact absurd rfl (mine _ present)
      · intro unvarying
        have plain := unvarying.resolve_right (fun rolled => unread rolled.2)
        have recorded : ∀ taxonomy ∈ named, Recorded _ taxonomy := fun taxonomy inside =>
          processed.plain taxonomy (listed taxonomy (.inl inside)) (plain taxonomy inside)
        rw [reviseEach_recorded read recorded] at later
        cases later with
        | committed same success => exact ⟨same.trans kept.symm,passed _,success _⟩

-- Every response, accepted or not.
theorem sync_repeatable (tables : SymbolTables) (first second : SymbolRun)
    (sameResponse : second.response = first.response) (sameSource : second.source = first.source)
    (differ : second.runId ≠ first.runId)
    (fresh : ∀ row ∈ tables.history.rows, row.sourceSnapshotId ≠ first.runId ∧ row.sourceSnapshotId ≠ second.runId)
    (identical : ∀ named, contents first = some named → Identical named) :
    Repeatable tables first second ↔ ∀ named, contents first = some named → Unvarying named := by
  have same : contents second = contents first := by
    unfold contents acceptedRecords
    rw [sameResponse,sameSource]
  have unowned : ∀ key ∈ keys tables.history, key.2.2 ≠ first.runId ∧ key.2.2 ≠ second.runId := by
    intro key inside
    obtain ⟨row,known,rfl⟩ := List.mem_map.mp inside
    exact fresh row known
  cases accepted : contents first with
  | none =>
    obtain ⟨kept,passed⟩ := sync_refused tables accepted
    obtain ⟨again,later⟩ := sync_refused (syncSymbols first tables).1 (same.trans accepted)
    constructor
    · intro _ named impossible
      cases impossible
    · intro _
      exact ⟨by rw [again],passed _,later _⟩
  | some named =>
    rw [repeatable_contents accepted (same.trans accepted) (identical named accepted) differ unowned]
    constructor
    · intro unvarying other read
      cases read
      exact unvarying
    · intro unvarying
      exact unvarying named rfl

end twice

end

/- A listed symbol observed twice, and named twice in one response. -/

def emptyTables : SymbolTables := ⟨⟨[],List.nodup_nil⟩,⟨[],List.nodup_nil⟩,[]⟩

def sampleRecord : SourceRecord :=
  .object [("symbol".toList,some "aaa".toList),("listing_date".toList,some "2010-05-10".toList)]

def sampleResponse (records : List SourceRecord) : SymbolResponse :=
  ⟨"reference.symbols".toList,"kbs".toList,some "pass".toList,records⟩

def sampleRun (runId : Text) (day : Nat) (records : List SourceRecord) : SymbolRun :=
  ⟨runId,day * 86400000000,none,true,some (sampleResponse records)⟩

def firstRun : SymbolRun := sampleRun ['1'] 1 [sampleRecord]
def secondRun : SymbolRun := sampleRun ['2'] 2 [sampleRecord]

theorem sample_identical : ∀ named, contents firstRun = some named → Identical named := by
  have read : contents firstRun = some (taxonomies "KBS".toList [sampleRecord]) := by decide
  have single : (taxonomies "KBS".toList [sampleRecord]).length = 1 := by decide
  intro named accepted left inside right listed _
  rw [← Option.some.inj (read.symm.trans accepted)] at inside listed
  obtain ⟨only,shape⟩ := List.length_eq_one_iff.mp single
  rw [shape] at inside listed
  exact (List.mem_singleton.mp inside).trans (List.mem_singleton.mp listed).symm

theorem sync_repeatable_sample : @Repeatable sampleCasts emptyTables firstRun secondRun ↔
    ∀ named, contents firstRun = some named → @Unvarying sampleCasts named := by
  apply @sync_repeatable sampleCasts
  · rfl
  · rfl
  · decide
  · intro row inside
    cases inside
  · exact sample_identical

-- The stored date is not the text of the record: the second run writes a second
-- version, and the repeated record asks for the key of the first one.
theorem sync_unrepeatable :
    (¬ ∀ (casts : SqlCasts) (tables : SymbolTables) (first second : SymbolRun), second.response = first.response →
      second.source = first.source → second.runId ≠ first.runId →
      (∀ row ∈ tables.history.rows, row.sourceSnapshotId ≠ first.runId ∧ row.sourceSnapshotId ≠ second.runId) →
      (∀ named, contents first = some named → Identical named) → @Repeatable casts tables first second) ∧
    (@syncSymbols sampleCasts (sampleRun ['1'] 1 [sampleRecord,sampleRecord]) emptyTables).2 =
      .error (.database .duplicateKey) := by
  refine ⟨?_,by decide⟩
  intro repeatable
  have counted : (@syncSymbols sampleCasts secondRun (@syncSymbols sampleCasts firstRun emptyTables).1).1.history.rows.length = 2 ∧
      (@syncSymbols sampleCasts firstRun emptyTables).1.history.rows.length = 1 := by decide
  have unowned : ∀ row ∈ emptyTables.history.rows,
      row.sourceSnapshotId ≠ firstRun.runId ∧ row.sourceSnapshotId ≠ secondRun.runId := by
    intro row inside
    cases inside
  have claimed := repeatable sampleCasts emptyTables firstRun secondRun rfl rfl (by decide) unowned sample_identical
  have same := @Repeatable.unchanged sampleCasts _ _ _ claimed
  rw [same,counted.2] at counted
  cases counted.1

end OpenStock.Ingestion
