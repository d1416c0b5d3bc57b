import OpenStock.Foundations.Temporal
import OpenStock.Ingestion.SymbolTaxonomy
import OpenStock.Warehouse.PointInTime

namespace OpenStock.Warehouse
open Text Calendar Ingestion

/- `warehouse/symbol_lifecycle.py`: the current projection `symbol_master` and the
versions in `symbol_classification_history`. -/

-- The database's casts of a text, `none` where the conversion fails.
class SqlCasts where
  date : Text → Option Date
  timestamptz : Text → Option Int

structure MasterRow where
  symbol : Text
  exchange : Option Text
  name : Option Text
  sector : Option Text
  industry : Option Text
  isActive : Bool
  lastSeenAt : Int
  securityType : Text
  listingDate : Option Date
  delistingDate : Option Date
  lifecycleStatus : Text
  sectorCode : Option Text
  sectorName : Option Text
  industryCode : Option Text
  industryName : Option Text
  taxonomyName : Text
  taxonomyVersion : Text
  classificationSource : Text
  classificationEffectiveFrom : Int
  lastSeenSourceSnapshotId : Text

structure MembershipRow where
  sourceSnapshotId : Text
  symbol : Text
  source : Text

structure SymbolMaster where
  rows : List MasterRow
  distinct : Rows.Distinct MasterRow.symbol rows

structure SymbolTables where
  master : SymbolMaster
  history : ClassificationHistory
  membership : List MembershipRow

-- The database errors of a call; neither is a ValueError or a TypeError.
inductive PersistError where
  | conversion
  | duplicateKey
deriving DecidableEq

-- One call, with the `current_timestamp` of its transaction.
structure PersistCall where
  snapshotId : Text
  now : Int
  taxonomy : SymbolTaxonomy

-- What Python compares: a text column and a date column are never equal.
inductive PyValue where
  | none
  | str (text : Text)
  | date (date : Date)
deriving DecidableEq

def PyValue.ofText : Option Text → PyValue
  | .none => .none
  | .some text => .str text

def PyValue.ofDate : Option Date → PyValue
  | .none => .none
  | .some day => .date day

def HistoryRow.values (row : HistoryRow) : List PyValue :=
  [.ofText row.exchange,.str row.securityType,.str row.lifecycleStatus,.ofDate row.listingDate,
   .ofDate row.delistingDate,.ofText row.sectorCode,.ofText row.sectorName,.ofText row.industryCode,
   .ofText row.industryName,.str row.taxonomyName,.str row.taxonomyVersion,.str row.classificationSource]

def classificationValues (taxonomy : SymbolTaxonomy) : List PyValue :=
  [.ofText taxonomy.exchange,.str taxonomy.securityType,.str taxonomy.lifecycleStatus,.ofText taxonomy.listingDate,
   .ofText taxonomy.delistingDate,.ofText taxonomy.sectorCode,.ofText taxonomy.sectorName,
   .ofText taxonomy.industryCode,.ofText taxonomy.industryName,.str taxonomy.taxonomyName,
   .str taxonomy.taxonomyVersion,.str taxonomy.classificationSource]

-- `WHERE symbol = ? AND effective_to IS NULL`
def openRevisions (history : ClassificationHistory) (symbol : Text) : List HistoryRow :=
  history.rows.filter (fun row => row.symbol == symbol && row.effectiveTo.isNone)

-- `ORDER BY effective_from DESC LIMIT 1`
def currentRevision (history : ClassificationHistory) (symbol : Text) : Option HistoryRow :=
  Rows.firstBy (fun left right => decide (right.effectiveFrom < left.effectiveFrom)) (openRevisions history symbol)

-- `current == _classification_values(taxonomy)`
def Recorded (history : ClassificationHistory) (taxonomy : SymbolTaxonomy) : Prop :=
  (currentRevision history taxonomy.symbol).map HistoryRow.values = some (classificationValues taxonomy)

instance : Decidable (Recorded history taxonomy) := inferInstanceAs (Decidable (_ = _))

def closeRevisions (history : ClassificationHistory) (symbol : Text) (effectiveTo : Int) : ClassificationHistory where
  rows := Temporal.close HistoryRow.effectiveTo (fun row => row.symbol == symbol)
    (fun row => {row with effectiveTo := some effectiveTo}) history.rows
  distinct := Rows.updateWhere_distinct (fun _ => rfl) history.distinct

-- An INSERT, which the primary key may refuse.
def insertRevision (history : ClassificationHistory) (row : HistoryRow) : ClassificationHistory × Option PersistError :=
  if present : row.key ∈ history.rows.map HistoryRow.key then (history,some .duplicateKey) else
  ({rows := history.rows ++ [row],
    distinct := by
      apply Rows.append_distinct history.distinct
      intro other inside same
      exact present (List.mem_map.mpr ⟨other,inside,same⟩)},none)

section
variable [SqlCasts]

-- `COALESCE(CAST(? AS TIMESTAMPTZ), current_timestamp)`
def PersistCall.effectiveFrom (call : PersistCall) : Option Int :=
  match call.taxonomy.effectiveFrom with
  | none => some call.now
  | some text => SqlCasts.timestamptz text

-- A text stored in a DATE column.
def dateColumn : Option Text → Option (Option Date)
  | none => some none
  | some text => (SqlCasts.date text).map some

def upsertCurrentSymbol (call : PersistCall) (master : SymbolMaster) : Except PersistError SymbolMaster :=
  match call.effectiveFrom,dateColumn call.taxonomy.listingDate,dateColumn call.taxonomy.delistingDate with
  | some effectiveFrom,some listingDate,some delistingDate =>
    let taxonomy := call.taxonomy
    let row : MasterRow :=
      {symbol := taxonomy.symbol,exchange := taxonomy.exchange,name := taxonomy.name,
       sector := taxonomy.sectorName,industry := taxonomy.industryName,
       isActive := taxonomy.isActiveCommonEquity,lastSeenAt := call.now,securityType := taxonomy.securityType,
       listingDate := listingDate,delistingDate := delistingDate,lifecycleStatus := taxonomy.lifecycleStatus,
       sectorCode := taxonomy.sectorCode,sectorName := taxonomy.sectorName,
       industryCode := taxonomy.industryCode,industryName := taxonomy.industryName,
       taxonomyName := taxonomy.taxonomyName,taxonomyVersion := taxonomy.taxonomyVersion,
       classificationSource := taxonomy.classificationSource,classificationEffectiveFrom := effectiveFrom,
       lastSeenSourceSnapshotId := call.snapshotId}
    .ok ⟨Rows.upsert MasterRow.symbol master.rows row,Rows.upsert_distinct master.distinct row⟩
  | _,_,_ => .error .conversion

def revisionRow (call : PersistCall) (effectiveFrom : Int) (listingDate delistingDate : Option Date) : HistoryRow :=
  let taxonomy := call.taxonomy
  {symbol := taxonomy.symbol,effectiveFrom := effectiveFrom,effectiveTo := none,sourceSnapshotId := call.snapshotId,
   classificationSource := taxonomy.classificationSource,exchange := taxonomy.exchange,
   securityType := taxonomy.securityType,lifecycleStatus := taxonomy.lifecycleStatus,
   listingDate := listingDate,delistingDate := delistingDate,sectorCode := taxonomy.sectorCode,
   sectorName := taxonomy.sectorName,industryCode := taxonomy.industryCode,industryName := taxonomy.industryName,
   taxonomyName := taxonomy.taxonomyName,taxonomyVersion := taxonomy.taxonomyVersion}

-- Outside a transaction the UPDATE stays even when the INSERT is refused.
def recordClassificationRevision (call : PersistCall) (history : ClassificationHistory) :
    ClassificationHistory × Option PersistError :=
  if Recorded history call.taxonomy then (history,none) else
  match call.effectiveFrom with
  | none => (history,some .conversion)
  | some effectiveFrom =>
    let closed := closeRevisions history call.taxonomy.symbol effectiveFrom
    match dateColumn call.taxonomy.listingDate,dateColumn call.taxonomy.delistingDate with
    | some listingDate,some delistingDate =>
      insertRevision closed (revisionRow call effectiveFrom listingDate delistingDate)
    | _,_ => (closed,some .conversion)

-- `ON CONFLICT (source_snapshot_id, symbol) DO NOTHING`
def insertMembership (row : MembershipRow) (rows : List MembershipRow) : List MembershipRow :=
  if rows.any (fun other => other.sourceSnapshotId == row.sourceSnapshotId && other.symbol == row.symbol) then rows
  else rows ++ [row]

def persistSymbolTaxonomy (call : PersistCall) (tables : SymbolTables) : SymbolTables × Option PersistError :=
  match upsertCurrentSymbol call tables.master with
  | .error error => (tables,some error)
  | .ok master =>
    match recordClassificationRevision call tables.history with
    | (history,some error) => ({tables with master := master,history := history},some error)
    | (history,none) =>
      let row : MembershipRow := ⟨call.snapshotId,call.taxonomy.symbol,call.taxonomy.classificationSource⟩
      ({master := master,history := history,membership := insertMembership row tables.membership},none)

-- Calls one after another, refused ones included.
def persistAll (tables : SymbolTables) (calls : List PersistCall) : SymbolTables :=
  calls.foldl (fun tables call => (persistSymbolTaxonomy call tables).1) tables

end

-- The symbols of the source that the snapshot does not name.
def unseen (snapshotId source : Text) (membership : List MembershipRow) (row : MasterRow) : Bool :=
  row.classificationSource == source && row.isActive &&
    !membership.any (fun member => member.sourceSnapshotId == snapshotId && member.symbol == row.symbol)

def deactivateUnseenSymbols (snapshotId source : Text) (tables : SymbolTables) : SymbolTables × Nat :=
  let rows := tables.master.rows.filter (unseen snapshotId source tables.membership)
  let master : SymbolMaster :=
    {rows := Rows.updateWhere (unseen snapshotId source tables.membership)
       (fun row => {row with isActive := false,lifecycleStatus := "INACTIVE".toList}) tables.master.rows,
     distinct := Rows.updateWhere_distinct (fun _ => rfl) tables.master.distinct}
  (if rows = [] then tables else {tables with master := master},rows.length)

/- An old date read again: everything but the end of a version. -/

def HistoryRow.withoutEnd (row : HistoryRow) : HistoryRow := {row with effectiveTo := none}

def SymbolClassification.withoutEnd (classification : SymbolClassification) : SymbolClassification :=
  {classification with effectiveTo := none}

def UniverseScan.withoutEnds (scan : UniverseScan) : UniverseScan :=
  {scan with winners := scan.winners.map (fun winner => (winner.1,winner.2.withoutEnd))}

section asOf
variable {zone : SessionZone} {before after : ClassificationHistory} {boundary : Int}

-- The rows in force at an instant, without their ends.
def inForce (history : ClassificationHistory) (boundary : Int) : List HistoryRow :=
  (history.rows.filter (fun row => row.effectiveAt boundary)).map HistoryRow.withoutEnd

theorem step_withoutEnds (day : Date) (scan : UniverseScan) (row : HistoryRow) :
    scan.withoutEnds.step day row.withoutEnd = (scan.step day row).withoutEnds := by
  have known : scan.withoutEnds.winners.any (fun winner => winner.1 == row.withoutEnd.symbol) =
      scan.winners.any (fun winner => winner.1 == row.symbol) := by
    simp only [UniverseScan.withoutEnds,List.any_map]
    rfl
  have covers : coversLifecycle (rowToClassification row.withoutEnd).listingDate
      (rowToClassification row.withoutEnd).delistingDate day =
        coversLifecycle (rowToClassification row).listingDate (rowToClassification row).delistingDate day := rfl
  unfold UniverseScan.step
  simp only [known,covers]
  split
  · rfl
  · split
    · rfl
    · simp only [UniverseScan.withoutEnds,List.map_append,List.map_cons,List.map_nil]
      rfl

theorem fold_withoutEnds (day : Date) (rows : List HistoryRow) (scan : UniverseScan) :
    (rows.map HistoryRow.withoutEnd).foldl (UniverseScan.step day) scan.withoutEnds =
      (rows.foldl (UniverseScan.step day) scan).withoutEnds := by
  induction rows generalizing scan with
  | nil => rfl
  | cons row rows ih =>
    rw [List.map_cons,List.foldl_cons,List.foldl_cons,step_withoutEnds]
    exact ih (scan.step day row)

theorem scan_withoutEnds (asOf : Moment) : (scanUniverse zone before asOf).withoutEnds =
    ((inForce before (zone asOf.asDatetime)).insertionSort PrecedesBySymbol).foldl
      (UniverseScan.step asOf.resolvedDate) ⟨[],[],[]⟩ := by
  have sorted : (inForce before (zone asOf.asDatetime)).insertionSort PrecedesBySymbol =
      ((before.rows.filter (fun row => row.effectiveAt (zone asOf.asDatetime))).insertionSort PrecedesBySymbol).map
        HistoryRow.withoutEnd := by
    rw [inForce]
    apply (List.map_insertionSort PrecedesBySymbol PrecedesBySymbol HistoryRow.withoutEnd _ _).symm
    intro left _ right _
    exact Iff.rfl
  rw [sorted]
  exact (fold_withoutEnds asOf.resolvedDate _ ⟨[],[],[]⟩).symm

-- What a resolved universe says, but for the ends.
structure SameUniverse (left right : PointInTimeUniverse) : Prop where
  symbols : left.symbols = right.symbols
  classified : ∀ symbol, (left.get symbol).map SymbolClassification.withoutEnd =
    (right.get symbol).map SymbolClassification.withoutEnd
  ambiguous : left.ambiguousSymbols = right.ambiguousSymbols
  snapshots : left.sourceSnapshotIds = right.sourceSnapshotIds

theorem get_withoutEnds (winners : List (Text × SymbolClassification)) (symbol : Text) :
    (lookup symbol winners).map SymbolClassification.withoutEnd =
      lookup symbol (winners.map (fun winner => (winner.1,winner.2.withoutEnd))) := by
  rw [lookup,lookup,List.find?_map,Option.map_map,Option.map_map]
  rfl

theorem universe_inForce (asOf : Moment) (same : inForce after (zone asOf.asDatetime) = inForce before (zone asOf.asDatetime)) :
    SameUniverse (resolveUniverse zone after asOf) (resolveUniverse zone before asOf) := by
  have scanned : (scanUniverse zone after asOf).withoutEnds = (scanUniverse zone before asOf).withoutEnds := by
    rw [scan_withoutEnds,scan_withoutEnds,same]
  obtain ⟨winners,counts,snapshots⟩ := UniverseScan.mk.inj scanned
  have named : (scanUniverse zone after asOf).winners.map Prod.fst = (scanUniverse zone before asOf).winners.map Prod.fst := by
    have firsts := congrArg (List.map Prod.fst) winners
    simpa only [UniverseScan.withoutEnds,List.map_map,Function.comp_def] using firsts
  have won : ∀ symbol, (scanUniverse zone after asOf).winners.any (fun winner => winner.1 == symbol) =
      (scanUniverse zone before asOf).winners.any (fun winner => winner.1 == symbol) := by
    intro symbol
    have firsts := congrArg (List.any · (fun name => name == symbol)) named
    simpa only [List.any_map,Function.comp_def] using firsts
  refine ⟨?_,?_,?_,?_⟩
  · simp only [PointInTimeUniverse.symbols,resolveUniverse,named]
  · intro symbol
    have left := get_withoutEnds (scanUniverse zone after asOf).winners symbol
    have right := get_withoutEnds (scanUniverse zone before asOf).winners symbol
    rw [winners] at left
    exact left.trans right.symm
  · simp only [resolveUniverse,counts,won]
  · simp only [resolveUniverse,snapshots]

variable (history : ClassificationHistory)

theorem close_inForce (symbol : Text) (later : boundary < ending) :
    inForce (closeRevisions history symbol ending) boundary = inForce history boundary := by
  apply Temporal.close_asOf later
  · intro row
    rfl
  · intro row
    rfl
  · intro row
    rfl

theorem insert_inForce (later : boundary < row.effectiveFrom) :
    inForce (insertRevision history row).1 boundary = inForce history boundary := by
  unfold insertRevision
  split
  · rfl
  · exact congrArg (List.map HistoryRow.withoutEnd) (Temporal.append_asOf later)

end asOf

section
variable [SqlCasts] {call : PersistCall} {boundary : Int}

theorem record_inForce (history : ClassificationHistory)
    (later : ∀ instant, call.effectiveFrom = some instant → boundary < instant) :
    inForce (recordClassificationRevision call history).1 boundary = inForce history boundary := by
  unfold recordClassificationRevision
  split
  · rfl
  · cases read : call.effectiveFrom with
    | none => rfl
    | some instant =>
      have closed := close_inForce history call.taxonomy.symbol (later instant read)
      simp only
      split
      · rw [insert_inForce _ (later instant read)]
        exact closed
      · exact closed

theorem persist_inForce (tables : SymbolTables) (later : ∀ instant, call.effectiveFrom = some instant → boundary < instant) :
    inForce (persistSymbolTaxonomy call tables).1.history boundary = inForce tables.history boundary := by
  have recorded := record_inForce tables.history later
  unfold persistSymbolTaxonomy
  split
  · rfl
  · split
    · rename_i same
      rw [same] at recorded
      exact recorded
    · rename_i same
      rw [same] at recorded
      exact recorded

theorem old_dates_stable (zone : SessionZone) (tables : SymbolTables) (calls : List PersistCall) (asOf : Moment)
    (later : ∀ call ∈ calls, ∀ instant, call.effectiveFrom = some instant → zone asOf.asDatetime < instant) :
    SameUniverse (resolveUniverse zone (persistAll tables calls).history asOf) (resolveUniverse zone tables.history asOf) := by
  apply universe_inForce
  induction calls generalizing tables with
  | nil => rfl
  | cons call calls ih =>
    have first := persist_inForce tables (later call List.mem_cons_self)
    have rest := ih (persistSymbolTaxonomy call tables).1 (fun other inside => later other (List.mem_cons_of_mem call inside))
    exact rest.trans first

end

-- ISO texts, read in the zone of the samples.
abbrev sampleCasts : SqlCasts :=
  ⟨Calendar.fromIsoformat,fun text => (DateTime.fromIsoformat text).map sampleZone⟩

def sampleTaxonomy (symbol : Text) (listed : Option Text) : SymbolTaxonomy :=
  {symbol := symbol,exchange := some "HOSE".toList,name := none,securityType := "COMMON_EQUITY".toList,
   lifecycleStatus := "ACTIVE".toList,listingDate := listed,delistingDate := none,sectorCode := none,
   sectorName := none,industryCode := none,industryName := none,taxonomyName := "source_unversioned".toList,
   taxonomyVersion := "unversioned".toList,classificationSource := "KBS".toList,effectiveFrom := none}

def sampleCall : PersistCall := ⟨['3'],sampleZone ⟨.of 2024 3 16,.midnight⟩,sampleTaxonomy "BBB".toList none⟩

def sampleTables : SymbolTables := ⟨⟨[],List.nodup_nil⟩,sampleHistory,[]⟩

-- The version open on the day is closed on the next one.
theorem old_dates_stable_sample :
    (openRevisions sampleHistory "BBB".toList ≠ openRevisions (@persistAll sampleCasts sampleTables [sampleCall]).history "BBB".toList) ∧
    SameUniverse (resolveUniverse sampleZone (@persistAll sampleCasts sampleTables [sampleCall]).history (.date sampleDay))
      (resolveUniverse sampleZone sampleTables.history (.date sampleDay)) := by
  refine ⟨by decide,?_⟩
  have later : sampleZone (Moment.date sampleDay).asDatetime < sampleCall.now := by decide
  apply @old_dates_stable sampleCasts
  intro call inside instant read
  rw [List.mem_singleton.mp inside] at read
  have same : sampleCall.now = instant := Option.some.inj read
  rw [← same]
  exact later

end OpenStock.Warehouse
