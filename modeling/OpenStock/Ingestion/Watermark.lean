import OpenStock.Foundations.Validation
import OpenStock.Ingestion.CanonicalPromotion
import OpenStock.Ingestion.TradingCalendar

namespace OpenStock.Ingestion
open Text Calendar

/- `ingestion/ohlcv_watermark.py` and the daily sync of `ingestion/ohlcv_maintenance.py`. -/

-- The columns of `symbol_master` that are read here, null where no writer filled them.
structure SymbolRow where
  symbol : Text
  isActive : Option Bool
  securityType : Option Text
  lifecycleStatus : Option Text

structure OhlcvWarehouse where
  symbols : List SymbolRow
  raw : List RawBar
  canonical : List CanonicalBar

-- `get_symbols_active`
def getSymbolsActive (warehouse : OhlcvWarehouse) : List Text :=
  ((warehouse.symbols.filter (fun row => row.isActive == some true &&
    row.securityType.getD "COMMON_EQUITY".toList == "COMMON_EQUITY".toList &&
    row.lifecycleStatus.getD "ACTIVE".toList == "ACTIVE".toList)).map SymbolRow.symbol).insertionSort (fun left right => left ≤ right)

-- Passing, and not an adjusted price of the one provider that has them.
def completeBar (qualityStatus provider priceBasis : Option Text) : Bool :=
  passing qualityStatus && (sqlUpper (sqlTrim (provider.getD [])) != "FIINQUANTX".toList ||
    sqlUpper (sqlTrim (priceBasis.getD [])) == rawUnadjusted)

def latestCanonicalDate (warehouse : OhlcvWarehouse) (symbol interval : Text) : Option Date :=
  ((warehouse.canonical.filter (fun bar => bar.symbol == symbol && bar.interval == interval &&
    completeBar bar.qualityStatus bar.selectedProvider bar.priceBasis)).map (fun bar => bar.time.date)).max?

def latestCompleteRawDate (warehouse : OhlcvWarehouse) (symbol interval : Text) : Option Date :=
  ((warehouse.raw.filter (fun bar => bar.symbol == symbol && bar.interval == interval &&
    completeBar bar.qualityStatus bar.provider bar.priceBasis)).map (fun bar => bar.time.date)).max?

def latestAvailableDate : Option Date → Option Date → Option Date
  | some canonicalDate,some rawDate => some (max canonicalDate rawDate)
  | some canonicalDate,none => some canonicalDate
  | none,rawDate => rawDate

structure OHLCVWatermarkRequest where
  symbol : Text
  interval : Text
  requestedStart : Date
  overlapSessions : Int
  overlapFloor : Option Date

structure OHLCVWatermark where
  symbol : Text
  interval : Text
  lastCanonicalDate : Option Date
  lastRawDate : Option Date
  nextRequestStart : Date

def nextRequestStart (request : OHLCVWatermarkRequest) (latestDate : Option Date) (calendar : VietnamSessionCalendar) :
    Except CalendarError Date :=
  match latestDate with
  | none => .ok request.requestedStart
  | some latest => do
    let overlapStart ← calendar.rewindSessions latest request.overlapSessions
    .ok (max (request.overlapFloor.getD request.requestedStart) overlapStart)

-- `OHLCVWatermarkService.resolve`
def resolveWatermark (calendar : VietnamSessionCalendar) (warehouse : OhlcvWarehouse) (request : OHLCVWatermarkRequest) :
    Except CalendarError OHLCVWatermark := do
  let canonicalDate := latestCanonicalDate warehouse request.symbol request.interval
  let rawDate := latestCompleteRawDate warehouse request.symbol request.interval
  let start ← nextRequestStart request (latestAvailableDate canonicalDate rawDate) calendar
  .ok ⟨request.symbol,request.interval,canonicalDate,rawDate,start⟩

inductive SyncError where
  | invalidEnsureDate (value : Text)
  | isoformat (value : Text)
  | calendar (error : CalendarError)
  | seam (message : Text)

def parseDate (value : Text) : Except SyncError Date :=
  match fromIsoformat value with
  | none => .error (.isoformat value)
  | some date => .ok date

def normalizeExplicitDate (value : Text) : Except SyncError Text :=
  let normalized := strip value
  match fromIsoformat normalized with
  | none => .error (.invalidEnsureDate value)
  | some parsed => if parsed.isoformat = normalized then .ok normalized else .error (.invalidEnsureDate value)

-- `date - timedelta(days=days)`
def daysEarlier : Nat → Date → Except SyncError Date
  | 0,date => .ok date
  | days + 1,date =>
    match date.yesterday with
    | none => .error (.calendar .overflow)
    | some before => daysEarlier days before

def computeLookbackStart (targetDate : Text) (lookbackDays : Nat) : Except SyncError Text := do
  let normalized ← normalizeExplicitDate targetDate
  let target ← parseDate normalized
  let lookback ← daysEarlier lookbackDays target
  .ok lookback.isoformat

-- `DEFAULT_POLICY.lookback_days`
def lookbackDays : Nat := 420

def minDate : Date := .of 1 1 1

structure DailyOHLCVSyncRequest where
  resolvedMarketDate : Date
  interval : Text
  source : Option Text
  symbols : Option (List Text)
  overlapSessions : Int

inductive BatchIngestionStatus where
  | success
  | partly
  | failed
deriving DecidableEq

structure FetchRequest where
  universe' : List Text
  start : Text
  final : Text
  interval : Text
  source : Option Text

structure OHLCVBatchResult where
  status : BatchIngestionStatus
  rowsInserted : Nat

-- The fields `fetch_ohlcv` and `build_canonical` of the service.
structure SyncSeams where
  fetch : FetchRequest → OhlcvWarehouse → Except SyncError (OhlcvWarehouse × OHLCVBatchResult)
  build : Text → Text → OhlcvWarehouse → Except SyncError OhlcvWarehouse

structure DailyOHLCVSyncResult where
  watermarks : List OHLCVWatermark
  batches : List OHLCVBatchResult
  status : BatchIngestionStatus

def dailyStatus (batches : List OHLCVBatchResult) : BatchIngestionStatus :=
  if batches.isEmpty then .failed
  else if batches.all (fun batch => batch.status == .success) then .success
  else if batches.any (fun batch => batch.status != .failed) then .partly
  else .failed

-- A provider request, with the warehouse it was issued in.
structure Issued where
  found : OhlcvWarehouse
  watermark : OHLCVWatermark
  request : FetchRequest

def symbolWatermark (calendar : VietnamSessionCalendar) (request : DailyOHLCVSyncRequest) (warehouse : OhlcvWarehouse)
    (symbol : Text) : Except SyncError OHLCVWatermark := do
  let lookback ← computeLookbackStart request.resolvedMarketDate.isoformat lookbackDays
  let bootstrapStart ← parseDate lookback
  (resolveWatermark calendar warehouse ⟨symbol,request.interval,bootstrapStart,request.overlapSessions,some minDate⟩).mapError .calendar

def fetchRequest (request : DailyOHLCVSyncRequest) (watermark : OHLCVWatermark) : FetchRequest :=
  ⟨[watermark.symbol],watermark.nextRequestStart.isoformat,request.resolvedMarketDate.isoformat,request.interval,request.source⟩

-- The loop over the symbols: the requests it issues, and how it ends.
def syncEachSymbol (resolve : OhlcvWarehouse → Text → Except SyncError OHLCVWatermark) (seams : SyncSeams)
    (request : DailyOHLCVSyncRequest) :
    List Text → OhlcvWarehouse → List Issued × Except SyncError (OhlcvWarehouse × List (OHLCVWatermark × OHLCVBatchResult))
  | [],warehouse => ([],.ok (warehouse,[]))
  | symbol :: symbols,warehouse =>
    match resolve warehouse symbol with
    | .error error => ([],.error error)
    | .ok watermark =>
      let issued : Issued := ⟨warehouse,watermark,fetchRequest request watermark⟩
      match seams.fetch issued.request warehouse with
      | .error error => ([issued],.error error)
      | .ok (fetched,batch) =>
        match (if batch.status = .failed then .ok fetched else seams.build symbol request.interval fetched) with
        | .error error => ([issued],.error error)
        | .ok built =>
          let later := syncEachSymbol resolve seams request symbols built
          (issued :: later.1,later.2.map (fun ended => (ended.1,(watermark,batch) :: ended.2)))

-- `request.symbols or tuple(get_symbols_active(conn))`
def syncedSymbols (request : DailyOHLCVSyncRequest) (warehouse : OhlcvWarehouse) : List Text :=
  match request.symbols with
  | none | some [] => getSymbolsActive warehouse
  | some symbols => symbols

-- `DailyOHLCVSyncService.sync`
def dailySync (calendar : VietnamSessionCalendar) (seams : SyncSeams) (request : DailyOHLCVSyncRequest) (warehouse : OhlcvWarehouse) :
    List Issued × Except SyncError (OhlcvWarehouse × DailyOHLCVSyncResult) :=
  let ran := syncEachSymbol (symbolWatermark calendar request) seams request (syncedSymbols request warehouse) warehouse
  (ran.1,ran.2.map (fun ended => (ended.1,⟨ended.2.map Prod.fst,ended.2.map Prod.snd,dailyStatus (ended.2.map Prod.snd)⟩)))

/- The start of a request. -/

theorem digit_unspaced (digit : c.isDigit = true) : isSpace c = false := by
  have bounds : 48 ≤ c.toNat ∧ c.toNat ≤ 57 := by
    simpa [Char.isDigit,UInt32.le_iff_toNat_le] using digit
  simp only [isSpace,Bool.or_eq_false_iff,Bool.and_eq_false_iff,decide_eq_false_iff_not,beq_eq_false_iff_ne]
  omega

variable (date : Date)

theorem isoformat_strip : strip date.isoformat = date.isoformat := by
  apply strip_clean
  intro c inside
  rcases isoformat_chars date c inside with digit | rfl
  · exact digit_unspaced digit
  · rfl

theorem isoformat_injective {left right : Date} (same : left.isoformat = right.isoformat) : left = right := by
  have read := congrArg fromIsoformat same
  rw [fromIsoformat_isoformat,fromIsoformat_isoformat] at read
  exact Option.some.inj read

theorem daysEarlier_before {date start : Date} (done : daysEarlier days date = .ok start) : start ≤ date := by
  induction days generalizing date with
  | zero =>
    cases done
    exact le_refl _
  | succ days ih =>
    rw [daysEarlier] at done
    cases found : date.yesterday with
    | none =>
      rw [found] at done
      cases done
    | some before =>
      rw [found] at done
      exact (ih done).trans (yesterday_before found).1.le

theorem lookback_date (days : Nat) : (computeLookbackStart date.isoformat days >>= parseDate) = daysEarlier days date := by
  have normalized : normalizeExplicitDate date.isoformat = .ok date.isoformat := by
    rw [normalizeExplicitDate,isoformat_strip,fromIsoformat_isoformat]
    exact if_pos rfl
  have parsed : ∀ date : Date, parseDate date.isoformat = .ok date := by
    intro date
    rw [parseDate,fromIsoformat_isoformat]
  have lookback : computeLookbackStart date.isoformat days = (daysEarlier days date).map Date.isoformat := by
    rw [computeLookbackStart,normalized]
    change (parseDate date.isoformat >>= fun target => daysEarlier days target >>= fun lookback => .ok lookback.isoformat) = _
    rw [parsed]
    change (daysEarlier days date >>= fun lookback => .ok lookback.isoformat) = _
    cases daysEarlier days date <;> rfl
  rw [lookback]
  cases daysEarlier days date with
  | error error => rfl
  | ok start => exact parsed start

section requests
variable {calendar : VietnamSessionCalendar} {seams : SyncSeams} {request : DailyOHLCVSyncRequest}
variable {warehouse : OhlcvWarehouse} {symbol : Text} {watermark : OHLCVWatermark} {issued : Issued}

theorem minDate_least : minDate ≤ date := by
  have year := date.yearBounded
  have month := date.monthBounded
  have day := date.dayBounded
  have least : minDate.stamp = 10101 := rfl
  rw [stamp_le,least]
  simp only [Date.stamp]
  omega

-- The later of the two watermarks.
def OHLCVWatermark.latestDate (watermark : OHLCVWatermark) : Option Date :=
  latestAvailableDate watermark.lastCanonicalDate watermark.lastRawDate

-- How a watermark comes about.
structure Resolved (calendar : VietnamSessionCalendar) (request : DailyOHLCVSyncRequest) (found : OhlcvWarehouse)
    (watermark : OHLCVWatermark) : Prop where
  canonical : watermark.lastCanonicalDate = latestCanonicalDate found watermark.symbol request.interval
  raw : watermark.lastRawDate = latestCompleteRawDate found watermark.symbol request.interval
  bootstrap : watermark.latestDate = none → watermark.nextRequestStart ≤ request.resolvedMarketDate
  rewound : ∀ latest, watermark.latestDate = some latest → 1 ≤ request.overlapSessions ∧
    calendar.rewindFrom (request.overlapSessions - 1).toNat latest = .ok watermark.nextRequestStart

theorem mapError_ok {ran : Except ε α} (done : ran.mapError f = .ok value) : ran = .ok value := by
  cases ran with
  | error error => cases done
  | ok inner =>
    cases done
    rfl

theorem symbolWatermark_lookback (calendar : VietnamSessionCalendar) (request : DailyOHLCVSyncRequest) (warehouse : OhlcvWarehouse)
    (symbol : Text) : symbolWatermark calendar request warehouse symbol =
      daysEarlier lookbackDays request.resolvedMarketDate >>= fun start =>
        (resolveWatermark calendar warehouse ⟨symbol,request.interval,start,request.overlapSessions,some minDate⟩).mapError
          .calendar := by
  rw [symbolWatermark,← lookback_date]
  cases computeLookbackStart request.resolvedMarketDate.isoformat lookbackDays <;> rfl

theorem watermark_resolved (done : symbolWatermark calendar request warehouse symbol = .ok watermark) :
    Resolved calendar request warehouse watermark := by
  rw [symbolWatermark_lookback] at done
  obtain ⟨bootstrap,earlier,done⟩ := bind_ok done
  obtain ⟨start,next,same⟩ := bind_ok (mapError_ok done)
  cases same
  refine ⟨rfl,rfl,?_,?_⟩
  · intro none
    have empty : latestAvailableDate (latestCanonicalDate warehouse symbol request.interval)
      (latestCompleteRawDate warehouse symbol request.interval) = Option.none := none
    rw [empty] at next
    cases next
    exact daysEarlier_before earlier
  · intro latest some'
    have present : latestAvailableDate (latestCanonicalDate warehouse symbol request.interval)
      (latestCompleteRawDate warehouse symbol request.interval) = some latest := some'
    rw [present] at next
    obtain ⟨overlapStart,rewound,same⟩ := bind_ok next
    cases same
    unfold VietnamSessionCalendar.rewindSessions at rewound
    split at rewound
    · cases rewound
    · rename_i enough
      refine ⟨Int.not_lt.mp enough,?_⟩
      rw [rewound]
      simp only [Option.getD_some,max_eq_right (minDate_least overlapStart)]

variable {resolve : OhlcvWarehouse → Text → Except SyncError OHLCVWatermark} (symbols : List Text)

theorem syncSymbols_issued (inside : issued ∈ (syncEachSymbol resolve seams request symbols warehouse).1) :
    issued.request = fetchRequest request issued.watermark ∧ ∃ symbol, resolve issued.found symbol = .ok issued.watermark := by
  induction symbols generalizing warehouse with
  | nil => cases inside
  | cons symbol symbols ih =>
    rw [syncEachSymbol] at inside
    cases done : resolve warehouse symbol with
    | error error =>
      rw [done] at inside
      cases inside
    | ok watermark =>
      rw [done] at inside
      have first : ∀ other : Issued, other = ⟨warehouse,watermark,fetchRequest request watermark⟩ →
          other.request = fetchRequest request other.watermark ∧ ∃ symbol, resolve other.found symbol = .ok other.watermark := by
        rintro other rfl
        exact ⟨rfl,symbol,done⟩
      simp only at inside
      split at inside
      · exact first issued (List.mem_singleton.mp inside)
      · split at inside
        · exact first issued (List.mem_singleton.mp inside)
        · rcases List.mem_cons.mp inside with same | rest
          · exact first issued same
          · exact ih rest

theorem watermark_rewound (earlier : daysEarlier lookbackDays request.resolvedMarketDate = .ok bootstrap)
    (latest_ : latestAvailableDate (latestCanonicalDate warehouse symbol request.interval)
      (latestCompleteRawDate warehouse symbol request.interval) = some latest)
    (rewound : calendar.rewindSessions latest request.overlapSessions = .ok start) :
    symbolWatermark calendar request warehouse symbol = .ok ⟨symbol,request.interval,
      latestCanonicalDate warehouse symbol request.interval,latestCompleteRawDate warehouse symbol request.interval,start⟩ := by
  have next : nextRequestStart ⟨symbol,request.interval,bootstrap,request.overlapSessions,some minDate⟩ (some latest) calendar =
      .ok start := by
    change (calendar.rewindSessions latest request.overlapSessions >>= fun overlapStart => .ok (max minDate overlapStart)) = _
    rw [rewound]
    exact congrArg Except.ok (max_eq_right (minDate_least start))
  rw [symbolWatermark_lookback,earlier]
  change ((nextRequestStart ⟨symbol,request.interval,bootstrap,request.overlapSessions,some minDate⟩
    (latestAvailableDate (latestCanonicalDate warehouse symbol request.interval)
      (latestCompleteRawDate warehouse symbol request.interval)) calendar >>= _).mapError _) = _
  rw [latest_,next]
  rfl

theorem issued_first (done : resolve warehouse symbol = .ok watermark) :
    ⟨warehouse,watermark,fetchRequest request watermark⟩ ∈ (syncEachSymbol resolve seams request (symbol :: symbols) warehouse).1 := by
  rw [syncEachSymbol,done]
  simp only
  split
  · exact List.mem_singleton_self _
  · split
    · exact List.mem_singleton_self _
    · exact List.mem_cons_self

/- What a request covers. -/

-- Every session after the last canonical one, up to the resolved date, is asked for.
def Covers (calendar : VietnamSessionCalendar) (start final canonicalDate : Date) : Prop :=
  ∀ session, calendar.isSession session = true → canonicalDate < session → session ≤ final → start ≤ session ∧ session ≤ final

theorem rewound_covers (enough : 1 ≤ overlap)
    (rewound : calendar.rewindFrom (overlap - 1).toNat latest = .ok start) : Covers calendar start final canonicalDate ↔
      (∀ session, calendar.isSession session = true → canonicalDate < session → ¬session ≤ final) ∨
        (calendar.sessionsBetween canonicalDate latest : Int) < overlap := by
  constructor
  · intro covers
    by_contra neither
    rw [not_or] at neither
    obtain ⟨some',many⟩ := neither
    push Not at some'
    obtain ⟨session,trading,above,within⟩ := some'
    -- The session that rewinding would have to reach next.
    have long : (overlap - 1).toNat < ((calendar.sessionsBack latest).filter (fun other => decide (canonicalDate < other))).length := by
      have counted : calendar.sessionsBetween canonicalDate latest =
        ((calendar.sessionsBack latest).filter (fun other => decide (canonicalDate < other))).length := rfl
      omega
    have listed : (overlap - 1).toNat < (calendar.sessionsBack latest).length := long.trans_le (List.length_filter_le _ _)
    obtain ⟨missed,found⟩ : ∃ missed, (calendar.sessionsBack latest)[(overlap - 1).toNat]? = some missed :=
      ⟨_,List.getElem?_eq_getElem listed⟩
    have later : canonicalDate < missed := by
      by_contra early
      have few := (descending_nth (sessionsBack_descending calendar latest) found canonicalDate).mp (not_lt.mp early)
      omega
    have also := ((mem_sessionsBack calendar).mp (List.mem_of_getElem? found)).2
    have beyond := rewind_next rewound found
    rcases le_total session missed with earlier | farther
    · exact absurd (covers session trading above within).1 (not_le.mpr (earlier.trans_lt beyond))
    · exact absurd (covers missed also later (farther.trans within)).1 (not_le.mpr beyond)
  · rintro (none | few) session trading above within
    · exact absurd within (none session trading above)
    · refine ⟨(rewind_le rewound session).mpr ?_,within⟩
      rcases le_or_gt latest session with past | below
      · exact .inl past
      · have less := between_less trading above below
        right
        omega

theorem between_later (calendar : VietnamSessionCalendar) (low : Date) (high : Date) :
    calendar.sessionsBetween low (max low high) = calendar.sessionsBetween low high := by
  rcases le_total high low with early | late
  · rw [max_eq_left early,between_none early,between_none (le_refl low)]
  · rw [max_eq_right late]

end requests

-- The later watermark is not after the resolved date, or the overlap reaches back to it.
def Reaches (calendar : VietnamSessionCalendar) (request : DailyOHLCVSyncRequest) (found : OhlcvWarehouse) (symbol : Text) : Prop :=
  ∀ latest, latestAvailableDate (latestCanonicalDate found symbol request.interval)
      (latestCompleteRawDate found symbol request.interval) = some latest →
    latest ≤ request.resolvedMarketDate ∨
      (calendar.sessionsBetween request.resolvedMarketDate latest : Int) + 1 < request.overlapSessions

-- No session is missing, or the raw bars are ahead by less than the overlap.
def KeepsUp (calendar : VietnamSessionCalendar) (request : DailyOHLCVSyncRequest) (found : OhlcvWarehouse) (symbol : Text)
    (canonicalDate : Date) : Prop :=
  (∀ session, calendar.isSession session = true → canonicalDate < session → ¬session ≤ request.resolvedMarketDate) ∨
    ∀ rawDate, latestCompleteRawDate found symbol request.interval = some rawDate →
      (calendar.sessionsBetween canonicalDate rawDate : Int) < request.overlapSessions

def julyDay (day : Nat) (bounds : 1 ≤ day ∧ day ≤ 31) : Date := ⟨2026,7,day,Calendar.in_2026,Calendar.in_july,bounds⟩
def fridayBefore : Date := julyDay 10 (by decide)
def thursdayAfter : Date := julyDay 16 (by decide)

def promotedFriday : CanonicalBar :=
  {leftoverBar with time := ⟨fridayBefore,.midnight⟩,qualityStatus := some "pass".toList}

def fetchedThursday : RawBar := {sampleRaw with time := ⟨thursdayAfter,.midnight⟩}

def stalledWarehouse : OhlcvWarehouse := ⟨[],[fetchedThursday],[promotedFriday]⟩
def weekdays : VietnamSessionCalendar := ⟨[],['0']⟩
def silentSeams : SyncSeams := ⟨fun _ _ => .error (.seam []),fun _ _ _ => .error (.seam [])⟩
def thursdayRequest : DailyOHLCVSyncRequest := ⟨thursdayAfter,oneDay,none,some ["FPT".toList],2⟩

def thursdayIssued : Issued :=
  let watermark : OHLCVWatermark := ⟨"FPT".toList,oneDay,latestCanonicalDate stalledWarehouse "FPT".toList oneDay,
    latestCompleteRawDate stalledWarehouse "FPT".toList oneDay,julyDay 15 (by decide)⟩
  ⟨stalledWarehouse,watermark,fetchRequest thursdayRequest watermark⟩

theorem thursday_issued : thursdayIssued ∈ (dailySync weekdays silentSeams thursdayRequest stalledWarehouse).1 := by
  have earlier : ∃ start, daysEarlier lookbackDays thursdayAfter = .ok start := by
    have done : (daysEarlier lookbackDays thursdayAfter).toBool = true := by decide +kernel
    cases ran : daysEarlier lookbackDays thursdayAfter with
    | error error =>
      rw [ran] at done
      cases done
    | ok start => exact ⟨start,rfl⟩
  obtain ⟨start,back⟩ := earlier
  have latest : latestAvailableDate (latestCanonicalDate stalledWarehouse "FPT".toList oneDay)
      (latestCompleteRawDate stalledWarehouse "FPT".toList oneDay) = some thursdayAfter := by decide
  have rewound : weekdays.rewindSessions thursdayAfter 2 = .ok (julyDay 15 (by decide)) := by
    have trading : weekdays.isSession (julyDay 15 (by decide)) = true := by decide
    have step := rewindFrom_step weekdays (show thursdayAfter.yesterday = some (julyDay 15 (by decide)) by decide) 0
    rw [trading,if_pos rfl,rewindFrom_zero] at step
    exact step
  exact issued_first [] (watermark_rewound back latest rewound)

end OpenStock.Ingestion
