import OpenStock.Ingestion.Watermark

namespace OpenStock.Ingestion
open Text Calendar

/- `ingestion/ohlcv_gaps.py`, `ohlcv_gap_inspection.py`, `ohlcv_gap_repository.py`, the scan
of `ohlcv_maintenance.py` and `ohlcv_repair.py`. -/

inductive LifecycleState where
  | active
  | suspended
  | inactive

inductive OHLCVGapKind where
  | holidayOrNonTrading
  | notYetPublished
  | suspendedOrInactive
  | providerEmpty
  | trueGap
deriving DecidableEq

structure GapDetectionInput where
  expectedSessions : List Date
  canonicalSessions : List Date
  lifecycle : LifecycleState
  resolvedMarketDate : Date
  providerEmpty : Bool

structure OHLCVGap where
  sessionDate : Date
  kind : OHLCVGapKind

def classifyMissingSession (gapInput : GapDetectionInput) (sessionDate : Date) : OHLCVGapKind :=
  if gapInput.resolvedMarketDate < sessionDate then .notYetPublished
  else match gapInput.lifecycle with
    | .active => if gapInput.providerEmpty then .providerEmpty else .trueGap
    | .suspended | .inactive => .suspendedOrInactive

def detectOhlcvGaps (gapInput : GapDetectionInput) : List OHLCVGap :=
  (gapInput.expectedSessions.filter (fun sessionDate => !gapInput.canonicalSessions.contains sessionDate)).map
    (fun sessionDate => ⟨sessionDate,classifyMissingSession gapInput sessionDate⟩)

def trueGapDates (gaps : List OHLCVGap) : List Date :=
  (gaps.filter (fun gap => gap.kind == .trueGap)).map OHLCVGap.sessionDate

-- One row of `ohlcv_gap_observation`.
structure GapRow where
  symbol : Text
  interval : Text
  sessionDate : Date
  gapKind : OHLCVGapKind
  calendarVersion : Text
  firstObservedAt : Int
  lastObservedAt : Int
  correlationId : Text
  resolvedAt : Option Int
  resolutionRef : Option Text

def GapRow.key (row : GapRow) : Text × Text × Date := (row.symbol,row.interval,row.sessionDate)

structure GapWarehouse where
  symbols : List SymbolRow
  raw : List RawBar
  tables : PromotionTables
  gaps : List GapRow

structure GapRequest where
  symbol : Text
  interval : Text
  range : SessionRange

def canonicalSessions (tables : PromotionTables) (request : GapRequest) : List Date :=
  (tables.canonical.rows.filter (fun bar => bar.symbol == request.symbol && bar.interval == request.interval &&
    decide (request.range.covers bar.time.date))).map (fun bar => bar.time.date)

def lifecycleState (symbols : List SymbolRow) (symbol : Text) : LifecycleState :=
  match (symbols.find? (fun row => row.symbol == symbol)).bind SymbolRow.lifecycleStatus with
  | none => .active
  | some status =>
    let name := upper (strip status)
    if name = "ACTIVE".toList then .active
    else if name = "SUSPENDED".toList then .suspended
    else .inactive

-- `OHLCVGapInspectionService.inspect`, which both callers give the end of the range as resolved date.
def inspect (calendar : VietnamSessionCalendar) (warehouse : GapWarehouse) (request : GapRequest) (providerEmpty : List Date) :
    Except CalendarError (List OHLCVGap) := do
  let expectedSessions ← calendar.sessions request.range
  let present := canonicalSessions warehouse.tables request
  let lifecycle := lifecycleState warehouse.symbols request.symbol
  .ok (expectedSessions.flatMap (fun sessionDate =>
    detectOhlcvGaps ⟨[sessionDate],present,lifecycle,request.range.final,providerEmpty.contains sessionDate⟩))

structure GapObservationWrite where
  symbol : Text
  interval : Text
  calendarVersion : Text
  correlationId : Text
  gaps : List OHLCVGap

-- The upsert keeps when a gap was first observed and opens it again.
def persistGap (now : Int) (write : GapObservationWrite) (rows : List GapRow) (gap : OHLCVGap) : List GapRow :=
  let observed : GapRow := ⟨write.symbol,write.interval,gap.sessionDate,gap.kind,write.calendarVersion,now,now,write.correlationId,none,none⟩
  let kept := match rows.find? (fun row => row.key = observed.key) with
    | some earlier => {observed with firstObservedAt := earlier.firstObservedAt}
    | none => observed
  Rows.upsert GapRow.key rows kept

def persistGapObservations (now : Int) (write : GapObservationWrite) (rows : List GapRow) : List GapRow × Nat :=
  (write.gaps.foldl (persistGap now write) rows,write.gaps.length)

structure GapObservationResolution where
  symbol : Text
  interval : Text
  canonicalSessions : List Date
  resolutionRef : Text

def resolveSession (now : Int) (resolution : GapObservationResolution) (rows : List GapRow) (sessionDate : Date) : List GapRow :=
  Rows.updateWhere (fun row => row.symbol == resolution.symbol && row.interval == resolution.interval &&
      row.sessionDate == sessionDate && row.resolvedAt.isNone)
    (fun row => {row with resolvedAt := some now,resolutionRef := some resolution.resolutionRef}) rows

def resolveGapObservations (now : Int) (resolution : GapObservationResolution) (rows : List GapRow) : List GapRow × Nat :=
  (resolution.canonicalSessions.foldl (resolveSession now resolution) rows,resolution.canonicalSessions.length)

structure OHLCVGapScanResult where
  report : List OHLCVGap
  persistedCount : Nat

def persistReport (now : Int) (calendar : VietnamSessionCalendar) (correlationId : Text) (request : GapRequest)
    (report : List OHLCVGap) (warehouse : GapWarehouse) : GapWarehouse :=
  {warehouse with
    gaps := (persistGapObservations now ⟨request.symbol,request.interval,calendar.version,correlationId,report⟩ warehouse.gaps).1}

-- `OHLCVGapScanService.scan`
def scanGaps (calendar : VietnamSessionCalendar) (now : Int) (correlationId : Text) (request : GapRequest) (warehouse : GapWarehouse) :
    Except CalendarError (GapWarehouse × OHLCVGapScanResult) := do
  let report ← inspect calendar warehouse request []
  .ok (persistReport now calendar correlationId request report warehouse,⟨report,report.length⟩)

inductive RepairError where
  | calendar (error : CalendarError)
  | range (error : RangeError)
  | fetch (message : Text)

-- `sync_ohlcv` for one symbol: what it leaves in `market_ohlcv_raw`, and whether its result says EMPTY.
abbrev RepairFetch := FetchRequest → List RawBar → Except RepairError (List RawBar × Bool)

def fetchTrueGaps (fetch : RepairFetch) (request : GapRequest) (source : Option Text) :
    List Date → List RawBar → Except RepairError (List RawBar × List Date)
  | [],raw => .ok (raw,[])
  | sessionDate :: later,raw => do
    let (fetched,empty) ← fetch ⟨[request.symbol],sessionDate.isoformat,sessionDate.isoformat,request.interval,source⟩ raw
    let (last,emptyDates) ← fetchTrueGaps fetch request source later fetched
    .ok (last,if empty then sessionDate :: emptyDates else emptyDates)

structure OHLCVRepairResult where
  before : List OHLCVGap
  after : List OHLCVGap
  fetchedDates : List Date
  providerEmptyDates : List Date

-- The clocks and the correlation of one repair.
structure RepairClock where
  epoch : Int
  before : Int
  build : Int
  after : Int
  resolve : Int
  correlationId : Text

section repair
variable [AuditHash]

-- The canonical tables once the true gaps were fetched.
def rebuiltTables (clock : RepairClock) (request : GapRequest) (missing : List Date) (raw : List RawBar) (tables : PromotionTables) :
    Except RepairError PromotionTables :=
  if missing = [] then .ok tables
  else match buildCanonicalOhlcv clock.epoch clock.build raw ⟨some request.symbol,request.interval,none,none⟩ tables with
    | .error error => .error (.range error)
    | .ok built => .ok built.1

-- `OHLCVRepairService.repair`
def repair (calendar : VietnamSessionCalendar) (fetch : RepairFetch) (clock : RepairClock) (request : GapRequest)
    (source : Option Text) (warehouse : GapWarehouse) : Except RepairError (GapWarehouse × OHLCVRepairResult) := do
  let before ← (inspect calendar warehouse request []).mapError .calendar
  let observed := persistReport clock.before calendar clock.correlationId request before warehouse
  let (raw,emptyDates) ← fetchTrueGaps fetch request source (trueGapDates before) warehouse.raw
  let tables ← rebuiltTables clock request (trueGapDates before) raw warehouse.tables
  let built : GapWarehouse := {observed with raw := raw,tables := tables}
  let after ← (inspect calendar built request emptyDates).mapError .calendar
  let reported := persistReport clock.after calendar clock.correlationId request after built
  let resolution : GapObservationResolution :=
    ⟨request.symbol,request.interval,canonicalSessions tables request,"repair:".toList ++ clock.correlationId⟩
  .ok ({reported with gaps := (resolveGapObservations clock.resolve resolution reported.gaps).1},
    ⟨before,after,trueGapDates before,emptyDates⟩)

end repair

/- The open observations. -/

def Unresolved (gaps : List GapRow) (symbol interval : Text) (date : Date) : Prop :=
  ∃ row ∈ gaps, row.key = (symbol,interval,date) ∧ row.resolvedAt = none

-- A session of the calendar without a canonical bar.
def Missing (calendar : VietnamSessionCalendar) (tables : PromotionTables) (request : GapRequest) (date : Date) : Prop :=
  calendar.isSession date = true ∧ date ∉ canonicalSessions tables request

-- The open observations of the range are its missing sessions.
def EvidenceMatches (calendar : VietnamSessionCalendar) (request : GapRequest) (warehouse : GapWarehouse) : Prop :=
  ∀ date, request.range.covers date →
    (Unresolved warehouse.gaps request.symbol request.interval date ↔ Missing calendar warehouse.tables request date)

section evidence
variable {calendar : VietnamSessionCalendar} {request : GapRequest} {warehouse : GapWarehouse}
variable {symbol interval : Text} {date : Date} {now : Int} (write : GapObservationWrite) (rows : List GapRow)

theorem persistGap_unresolved (gap : OHLCVGap) : Unresolved (persistGap now write rows gap) symbol interval date ↔
      (symbol,interval,date) = (write.symbol,write.interval,gap.sessionDate) ∨ Unresolved rows symbol interval date := by
  obtain ⟨kept,keyed,opened,put⟩ : ∃ kept : GapRow, kept.key = (write.symbol,write.interval,gap.sessionDate) ∧
      kept.resolvedAt = none ∧ persistGap now write rows gap = Rows.upsert GapRow.key rows kept := by
    refine ⟨_,?_,?_,rfl⟩
    · split <;> rfl
    · split <;> rfl
  rw [put]
  constructor
  · rintro ⟨row,inside,same,unresolved⟩
    rcases (Rows.mem_upsert_key rows kept row).mp inside with rfl | ⟨before,_⟩
    · exact .inl (same.symm.trans keyed)
    · exact .inr ⟨row,before,same,unresolved⟩
  · rintro (same | ⟨row,inside,same,unresolved⟩)
    · exact ⟨kept,(Rows.mem_upsert_key rows kept kept).mpr (.inl rfl),keyed.trans same.symm,opened⟩
    · by_cases shared : row.key = kept.key
      · exact ⟨kept,(Rows.mem_upsert_key rows kept kept).mpr (.inl rfl),shared.symm.trans same,opened⟩
      · exact ⟨row,(Rows.mem_upsert_key rows kept row).mpr (.inr ⟨inside,shared⟩),same,unresolved⟩

theorem persist_unresolved : Unresolved (persistGapObservations now write rows).1 symbol interval date ↔
      (symbol = write.symbol ∧ interval = write.interval ∧ date ∈ write.gaps.map OHLCVGap.sessionDate) ∨
        Unresolved rows symbol interval date := by
  have folded : ∀ gaps : List OHLCVGap, ∀ rows, Unresolved (gaps.foldl (persistGap now write) rows) symbol interval date ↔
      (symbol = write.symbol ∧ interval = write.interval ∧ date ∈ gaps.map OHLCVGap.sessionDate) ∨
        Unresolved rows symbol interval date := by
    intro gaps
    induction gaps with
    | nil => simp
    | cons gap gaps ih =>
      intro rows
      rw [List.foldl_cons,ih,persistGap_unresolved]
      simp only [Prod.mk.injEq,List.map_cons,List.mem_cons]
      tauto
  exact folded write.gaps rows

variable (resolution : GapObservationResolution)

theorem resolveSession_unresolved (rows : List GapRow) (sessionDate : Date) :
    Unresolved (resolveSession now resolution rows sessionDate) symbol interval date ↔
      Unresolved rows symbol interval date ∧ (symbol,interval,date) ≠ (resolution.symbol,resolution.interval,sessionDate) := by
  constructor
  · rintro ⟨row,inside,same,unresolved⟩
    obtain ⟨source,present,edited⟩ := List.mem_map.mp inside
    split at edited
    · cases edited
      cases unresolved
    · rename_i kept
      cases edited
      refine ⟨⟨row,present,same,unresolved⟩,?_⟩
      intro shared
      rw [← same] at shared
      simp only [GapRow.key,Prod.mk.injEq] at shared
      exact kept (by simp [shared.1,shared.2.1,shared.2.2,unresolved])
  · rintro ⟨⟨row,inside,same,unresolved⟩,apart⟩
    refine ⟨row,List.mem_map.mpr ⟨row,inside,if_neg ?_⟩,same,unresolved⟩
    intro selected
    simp only [Bool.and_eq_true,beq_iff_eq] at selected
    rw [← same] at apart
    exact apart (by simp [GapRow.key,selected.1.1.1,selected.1.1.2,selected.1.2])

theorem resolve_unresolved (rows : List GapRow) :
    Unresolved (resolveGapObservations now resolution rows).1 symbol interval date ↔ Unresolved rows symbol interval date ∧
        ¬(symbol = resolution.symbol ∧ interval = resolution.interval ∧ date ∈ resolution.canonicalSessions) := by
  have folded : ∀ sessions : List Date, ∀ rows, Unresolved (sessions.foldl (resolveSession now resolution) rows) symbol interval date ↔
      Unresolved rows symbol interval date ∧
        ¬(symbol = resolution.symbol ∧ interval = resolution.interval ∧ date ∈ sessions) := by
    intro sessions
    induction sessions with
    | nil => simp
    | cons session sessions ih =>
      intro rows
      rw [List.foldl_cons,ih,resolveSession_unresolved]
      simp only [Ne,Prod.mk.injEq,List.mem_cons]
      tauto
  exact folded resolution.canonicalSessions rows

variable {providerEmpty : List Date} {report : List OHLCVGap}

-- A report names the missing sessions of the range.
theorem inspect_dates (done : inspect calendar warehouse request providerEmpty = .ok report) (date : Date) :
    date ∈ report.map OHLCVGap.sessionDate ↔ request.range.covers date ∧ Missing calendar warehouse.tables request date := by
  obtain ⟨expected,listed,same⟩ := bind_ok done
  cases same
  have members := mem_sessionsFrom calendar listed date
  simp only [List.mem_map,List.mem_flatMap,detectOhlcvGaps]
  constructor
  · rintro ⟨gap,⟨session,inside,found⟩,rfl⟩
    obtain ⟨single,kept,rfl⟩ := found
    obtain ⟨only,absent⟩ := List.mem_filter.mp kept
    cases List.mem_singleton.mp only
    obtain ⟨trading,above,below⟩ := members.mp inside
    exact ⟨⟨above,below⟩,trading,by simpa using absent⟩
  · rintro ⟨within,trading,absent⟩
    exact ⟨_,⟨date,members.mpr ⟨trading,within.1,within.2⟩,date,
      List.mem_filter.mpr ⟨List.mem_singleton_self date,by simpa using absent⟩,rfl⟩,rfl⟩

variable {after : GapWarehouse} {correlationId : Text} {result : OHLCVGapScanResult}

-- A scan opens what is missing and closes nothing.
theorem scan_unresolved
    (done : scanGaps calendar now correlationId request warehouse = .ok (after,result)) {date : Date} (within : request.range.covers date) :
    after.tables = warehouse.tables ∧ (Unresolved after.gaps request.symbol request.interval date ↔
      Missing calendar warehouse.tables request date ∨ Unresolved warehouse.gaps request.symbol request.interval date) := by
  obtain ⟨report,inspected,same⟩ := bind_ok done
  cases same
  refine ⟨rfl,(persist_unresolved _ _).trans ?_⟩
  simp only [inspect_dates inspected,within,true_and]

section repair
variable [AuditHash] {fetch : RepairFetch} {clock : RepairClock} {source : Option Text} {after : GapWarehouse}
variable {result : OHLCVRepairResult}

-- A repair opens what is missing before and after it, and closes what is present after it.
theorem repair_unresolved (done : repair calendar fetch clock request source warehouse = .ok (after,result))
    {date : Date} (within : request.range.covers date) : Unresolved after.gaps request.symbol request.interval date ↔
      (Missing calendar after.tables request date ∨ Missing calendar warehouse.tables request date ∨
        Unresolved warehouse.gaps request.symbol request.interval date) ∧ date ∉ canonicalSessions after.tables request := by
  obtain ⟨before,inspected,done⟩ := bind_ok done
  obtain ⟨fetched,_,done⟩ := bind_ok done
  obtain ⟨tables,_,done⟩ := bind_ok done
  obtain ⟨report,again,same⟩ := bind_ok done
  cases same
  rw [resolve_unresolved]
  refine and_congr ?_ ⟨fun none inside => none ⟨rfl,rfl,inside⟩,fun absent held => absent held.2.2⟩
  refine (persist_unresolved _ _).trans (or_congr ?_ ((persist_unresolved _ _).trans (or_congr ?_ Iff.rfl)))
  · exact ⟨fun listed => ((inspect_dates (mapError_ok again) date).mp listed.2.2).2,
      fun missing => ⟨rfl,rfl,(inspect_dates (mapError_ok again) date).mpr ⟨within,missing⟩⟩⟩
  · exact ⟨fun listed => ((inspect_dates (mapError_ok inspected) date).mp listed.2.2).2,
      fun missing => ⟨rfl,rfl,(inspect_dates (mapError_ok inspected) date).mpr ⟨within,missing⟩⟩⟩

end repair

-- After a scan the evidence matches exactly when no open observation was left over.
theorem scan_matches (done : scanGaps calendar now correlationId request warehouse = .ok (after,result)) :
    EvidenceMatches calendar request after ↔ ∀ date, request.range.covers date →
      Unresolved warehouse.gaps request.symbol request.interval date → Missing calendar warehouse.tables request date := by
  constructor
  · intro agrees date within unresolved
    obtain ⟨same,scanned⟩ := scan_unresolved done within
    exact same ▸ (agrees date within).mp (scanned.mpr (.inr unresolved))
  · intro fresh date within
    obtain ⟨same,scanned⟩ := scan_unresolved done within
    rw [scanned,same]
    exact ⟨fun either => either.elim id (fresh date within),.inl⟩

-- The canonical tables a repair ends with.
def Rebuilt [AuditHash] (calendar : VietnamSessionCalendar) (fetch : RepairFetch) (clock : RepairClock) (request : GapRequest)
    (source : Option Text) (warehouse : GapWarehouse) (tables : PromotionTables) : Prop :=
  ∃ before fetched, inspect calendar warehouse request [] = .ok before ∧
    fetchTrueGaps fetch request source (trueGapDates before) warehouse.raw = .ok fetched ∧
    rebuiltTables clock request (trueGapDates before) fetched.1 warehouse.tables = .ok tables

variable {result : OHLCVRepairResult} {source : Option Text} {fetch : RepairFetch} {clock : RepairClock}

theorem repair_rebuilt [AuditHash] (done : repair calendar fetch clock request source warehouse = .ok (after,result)) :
    Rebuilt calendar fetch clock request source warehouse after.tables := by
  obtain ⟨before,inspected,done⟩ := bind_ok done
  obtain ⟨fetched,ran,done⟩ := bind_ok done
  obtain ⟨tables,built,done⟩ := bind_ok done
  obtain ⟨report,_,same⟩ := bind_ok done
  cases same
  exact ⟨before,fetched,mapError_ok inspected,ran,built⟩

-- After a repair only an open observation of another day can be left over.
theorem repair_matches [AuditHash] (done : repair calendar fetch clock request source warehouse = .ok (after,result)) :
    EvidenceMatches calendar request after ↔ ∀ date, request.range.covers date →
      Unresolved warehouse.gaps request.symbol request.interval date →
        calendar.isSession date = true ∨ date ∈ canonicalSessions after.tables request := by
  constructor
  · intro agrees date within unresolved
    by_contra neither
    rw [not_or] at neither
    have left := (repair_unresolved done within).mpr ⟨.inr (.inr unresolved),neither.2⟩
    exact neither.1 ((agrees date within).mp left).1
  · intro sessions date within
    rw [repair_unresolved done within]
    constructor
    · rintro ⟨missing | before | unresolved,absent⟩
      · exact missing
      · exact ⟨before.1,absent⟩
      · exact ⟨(sessions date within unresolved).resolve_right absent,absent⟩
    · intro missing
      exact ⟨.inl missing,missing.2⟩

/- Histories under one calendar. -/

-- Scans and repairs of any symbols and ranges, and any other work on the other tables.
inductive History [AuditHash] (calendar : VietnamSessionCalendar) : GapWarehouse → Prop where
  | fresh {held : GapWarehouse} (empty : held.gaps = []) : History calendar held
  | other {held next : GapWarehouse} (before : History calendar held) (same : next.gaps = held.gaps) : History calendar next
  | scan {held next : GapWarehouse} {now : Int} {correlationId : Text} {request : GapRequest} {result : OHLCVGapScanResult}
      (before : History calendar held)
      (done : scanGaps calendar now correlationId request held = .ok (next,result)) : History calendar next
  | repair {held next : GapWarehouse} {fetch : RepairFetch} {clock : RepairClock} {request : GapRequest} {source : Option Text}
      {result : OHLCVRepairResult} (before : History calendar held)
      (done : repair calendar fetch clock request source held = .ok (next,result)) : History calendar next

def OnSessions (calendar : VietnamSessionCalendar) (gaps : List GapRow) : Prop :=
  ∀ symbol interval date, Unresolved gaps symbol interval date → calendar.isSession date = true

theorem report_sessions
    (done : inspect calendar warehouse request providerEmpty = .ok report) (sessions : OnSessions calendar held.gaps) (now : Int) :
    OnSessions calendar (persistReport now calendar correlationId request report held).gaps := by
  intro symbol interval date unresolved
  rcases (persist_unresolved _ _).mp unresolved with ⟨_,_,listed⟩ | before
  · exact ((inspect_dates done date).mp listed).2.1
  · exact sessions symbol interval date before

theorem history_sessions [AuditHash] {warehouse : GapWarehouse} (history : History calendar warehouse) :
    OnSessions calendar warehouse.gaps := by
  induction history with
  | fresh empty =>
    rintro symbol interval date ⟨row,inside,_⟩
    rw [empty] at inside
    cases inside
  | other before same ih => exact same ▸ ih
  | scan before done ih =>
    obtain ⟨report,inspected,same⟩ := bind_ok done
    cases same
    exact report_sessions inspected ih _
  | repair before done ih =>
    obtain ⟨report,inspected,done⟩ := bind_ok done
    obtain ⟨fetched,_,done⟩ := bind_ok done
    obtain ⟨tables,_,done⟩ := bind_ok done
    obtain ⟨later,again,same⟩ := bind_ok done
    cases same
    intro symbol interval date unresolved
    exact report_sessions (mapError_ok again) (report_sessions (mapError_ok inspected) ih _) _ symbol interval date
      ((resolve_unresolved _ _).mp unresolved).1

end evidence

-- Over every warehouse and range: when a scan and a repair leave the evidence matched.
theorem gap_evidence_exact [AuditHash] (calendar : VietnamSessionCalendar) (now : Int) (correlationId : Text) (fetch : RepairFetch)
    (clock : RepairClock) (source : Option Text) (request : GapRequest) (warehouse : GapWarehouse) :
    (∀ after result, scanGaps calendar now correlationId request warehouse = .ok (after,result) →
      (EvidenceMatches calendar request after ↔ ∀ date, request.range.covers date →
        Unresolved warehouse.gaps request.symbol request.interval date → Missing calendar warehouse.tables request date)) ∧
    ∀ after result, repair calendar fetch clock request source warehouse = .ok (after,result) →
      ∃ tables, Rebuilt calendar fetch clock request source warehouse tables ∧
        (EvidenceMatches calendar request after ↔ ∀ date, request.range.covers date →
          Unresolved warehouse.gaps request.symbol request.interval date →
            calendar.isSession date = true ∨ date ∈ canonicalSessions tables request) :=
  ⟨fun _ _ done => scan_matches done,fun after _ done => ⟨after.tables,repair_rebuilt done,repair_matches done⟩⟩

/- A gap of Friday the tenth, open when its bar had been promoted. -/

def fridayRequest : GapRequest := ⟨"FPT".toList,oneDay,⟨fridayBefore,fridayBefore,le_refl _⟩⟩

def openFriday : GapRow :=
  ⟨"FPT".toList,oneDay,fridayBefore,.trueGap,['0'],0,0,['c'],none,none⟩

def promotedWarehouse : GapWarehouse := ⟨[],[],⟨⟨[promotedFriday],List.nodup_singleton _⟩,[],[],[]⟩,[openFriday]⟩

theorem friday_report (warehouse : GapWarehouse) (same : warehouse.tables = promotedWarehouse.tables) (providerEmpty : List Date) :
    inspect weekdays warehouse fridayRequest providerEmpty = .ok [] := by
  have day : weekdays.sessions fridayRequest.range = .ok [fridayBefore] := by
    have trading : weekdays.isSession fridayBefore = true := by decide
    have after : fridayBefore.dayAfter = some (julyDay 11 (by decide)) := by decide
    have past : ¬julyDay 11 (by decide) ≤ fridayBefore := by decide
    change weekdays.sessionsFrom fridayBefore fridayBefore = _
    rw [sessionsFrom_next weekdays (le_refl fridayBefore) after,sessionsFrom_past weekdays past]
    simp [Except.map,trading]
  have present : canonicalSessions warehouse.tables fridayRequest = [fridayBefore] := by
    rw [same]
    decide
  rw [inspect,day]
  change Except.ok ([fridayBefore].flatMap (fun sessionDate => detectOhlcvGaps ⟨[sessionDate],
    canonicalSessions warehouse.tables fridayRequest,_,_,_⟩)) = _
  rw [present]
  simp [detectOhlcvGaps]

theorem friday_scanned : ∃ result, scanGaps weekdays 1 ['c'] fridayRequest promotedWarehouse = .ok (promotedWarehouse,result) := by
  refine ⟨⟨[],0⟩,?_⟩
  rw [scanGaps,friday_report promotedWarehouse rfl]
  rfl

theorem friday_open : Unresolved promotedWarehouse.gaps "FPT".toList oneDay fridayBefore :=
  ⟨openFriday,List.mem_singleton_self _,rfl,rfl⟩

theorem gap_evidence_exact_sample : ¬EvidenceMatches weekdays fridayRequest promotedWarehouse := by
  obtain ⟨result,done⟩ := friday_scanned
  rw [(@gap_evidence_exact sampleHash weekdays 1 ['c'] (fun _ raw => .ok (raw,true)) ⟨0,0,0,0,0,['c']⟩ none fridayRequest
    promotedWarehouse).1 promotedWarehouse result done]
  intro fresh
  exact (fresh fridayBefore ⟨le_refl _,le_refl _⟩ friday_open).2 (by decide)

def scannedFriday : GapWarehouse := {promotedWarehouse with gaps := []}

theorem scan_leaves_stale : ¬ ∀ (calendar : VietnamSessionCalendar) (now : Int) (correlationId : Text) (request : GapRequest)
    (warehouse after : GapWarehouse) (result : OHLCVGapScanResult),
    scanGaps calendar now correlationId request warehouse = .ok (after,result) → EvidenceMatches calendar request after := by
  intro agrees
  obtain ⟨result,done⟩ := friday_scanned
  have missing := (agrees weekdays 1 ['c'] fridayRequest promotedWarehouse promotedWarehouse result done fridayBefore
    ⟨le_refl _,le_refl _⟩).mp friday_open
  exact missing.2 (by decide)

end OpenStock.Ingestion
