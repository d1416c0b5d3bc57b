import OpenStock.CurrentSymbol.Protocol
import OpenStock.Foundations.Stretches
import OpenStock.Ingestion.TradingCalendar

namespace OpenStock.CurrentSymbol.Ohlcv
open Text Calendar Ingestion Stretches

/- `artifact_readiness.py`: the state of a symbol's daily bars and the ranges proposed
for repair. Dates are kept as dates, not as their ISO texts. -/

-- The columns of `canonical_ohlcv` and `ohlcv_gap_observation` that are read.
structure CanonicalRow where
  symbol : Text
  interval : Text
  date : Date
  qualityStatus : Option Text

structure GapObservation where
  symbol : Text
  interval : Text
  sessionDate : Date
  trueGap : Bool
  resolved : Bool

structure OhlcvWarehouse where
  canonical : List CanonicalRow
  gaps : List GapObservation

structure OhlcvQuery where
  symbol : Text
  effectiveDate : Date
  lookbackStart : Date
  requiredRows : Int
  acceptableQualityStatuses : List Text

structure OhlcvSummary where
  rowCount : Nat
  latestDate : Option Date
  unacceptableQuality : Bool
  unresolvedGap : Bool
  missingRequiredSession : Bool

structure BoundedDateRange where
  startDate : Date
  endDate : Date

def daily : Text := "1D".toList

def within (query : OhlcvQuery) (date : Date) : Bool := decide (query.lookbackStart ≤ date ∧ date ≤ query.effectiveDate)

def windowRows (query : OhlcvQuery) (warehouse : OhlcvWarehouse) : List CanonicalRow :=
  warehouse.canonical.filter (fun row => row.symbol == query.symbol && row.interval == daily && within query row.date)

def availableSessions (query : OhlcvQuery) (warehouse : OhlcvWarehouse) : List Date := (windowRows query warehouse).map CanonicalRow.date

def unacceptable (query : OhlcvQuery) (row : CanonicalRow) : Bool :=
  decide (sqlLower (row.qualityStatus.getD []) ∉ query.acceptableQualityStatuses)

def openGap (query : OhlcvQuery) (gap : GapObservation) : Bool :=
  gap.symbol == query.symbol && gap.interval == daily && within query gap.sessionDate && !gap.resolved && gap.trueGap

def requiredSessions (calendar : VietnamSessionCalendar) (query : OhlcvQuery) : Except CalendarError (List Date) := do
  let requiredStart ← calendar.rewindSessions query.effectiveDate query.requiredRows
  let range ← sessionRange requiredStart query.effectiveDate
  calendar.sessions range

def ohlcvSummary (calendar : VietnamSessionCalendar) (warehouse : OhlcvWarehouse) (query : OhlcvQuery) : Except CalendarError OhlcvSummary := do
  let rows := windowRows query warehouse
  let required ← requiredSessions calendar query
  .ok {
    rowCount:=rows.length
    latestDate:=(rows.map CanonicalRow.date).max?
    unacceptableQuality:=rows.any (unacceptable query)
    unresolvedGap:=warehouse.gaps.any (openGap query)
    missingRequiredSession:=required.any (fun session => decide (session ∉ availableSessions query warehouse))
  }

def ohlcvState (summary : OhlcvSummary) (query : OhlcvQuery) : ArtifactState :=
  if summary.rowCount = 0 then .missing
  else if summary.unacceptableQuality || summary.unresolvedGap then .invalid
  else if (summary.rowCount : Int) < query.requiredRows ∨ summary.latestDate ≠ some query.effectiveDate ∨ summary.missingRequiredSession = true then
    .stale
  else .ready

-- The state `_ohlcv_artifact` gives the bars.
def readiness (calendar : VietnamSessionCalendar) (warehouse : OhlcvWarehouse) (query : OhlcvQuery) : Except CalendarError ArtifactState := do
  let summary ← ohlcvSummary calendar warehouse query
  .ok (ohlcvState summary query)

-- The loop over `missing_indexes[1:]`, each index with its session.
def groupMissing (start : Date) (previous : Date × Nat) : List (Date × Nat) → List BoundedDateRange
  | [] => [⟨start,previous.1⟩]
  | next :: rest =>
    if next.2 = previous.2 + 1 then groupMissing start next rest
    else ⟨start,previous.1⟩ :: groupMissing next.1 next rest

def missingRanges (calendar : VietnamSessionCalendar) (warehouse : OhlcvWarehouse) (query : OhlcvQuery) :
    Except CalendarError (List BoundedDateRange) := do
  let available := availableSessions query warehouse
  let coverageStart ← calendar.rewindSessions query.effectiveDate query.requiredRows
  if available = [] then .ok [⟨coverageStart,query.effectiveDate⟩]
  else do
    let range ← sessionRange coverageStart query.effectiveDate
    let sessions ← calendar.sessions range
    match sessions.zipIdx.filter (fun session => decide (session.1 ∉ available)) with
    | [] => .ok [⟨query.lookbackStart,query.effectiveDate⟩]
    | first :: rest => .ok (groupMissing first.1 first rest)

/- The calendar of the service. -/

def january1 : Date := .of 2026 1 1
def validFrom : Date := january1
def validThrough : Date := .of 2026 12 31

def vietnamExchangeHolidays2026 : List Date :=
  [january1,.of 2026 1 2,.of 2026 2 16,
    .of 2026 2 17,.of 2026 2 18,.of 2026 2 19,
    .of 2026 2 20,.of 2026 4 27,.of 2026 4 30,
    .of 2026 5 1,.of 2026 8 31,.of 2026 9 1,
    .of 2026 9 2]

def exchangeCalendar : VietnamSessionCalendar := ⟨vietnamExchangeHolidays2026,"hnx-vnx-2026-1403-1517".toList⟩

/- The loop and the stretches of missing sessions. -/

def rangeOf (range : Date × Date) : BoundedDateRange := ⟨range.1,range.2⟩

variable (marked : Date → Bool) (rows : List Date)

theorem group_stretches (ordered : rows.Pairwise (· < ·)) (start : Date) (previous : Date × Nat) (index : Nat) :
    (previous.2 + 1 = index → groupMissing start previous ((rows.zipIdx index).filter (fun row => marked row.1)) =
      (continued start previous.1 rows (stretches marked rows)).map rangeOf) ∧
    (previous.2 + 1 < index → groupMissing start previous ((rows.zipIdx index).filter (fun row => marked row.1)) =
      ((start,previous.1) :: stretches marked rows).map rangeOf) := by
  induction rows generalizing start previous index with
  | nil => exact ⟨fun _ => rfl,fun _ => rfl⟩
  | cons row rows later =>
    obtain ⟨before,rest⟩ := List.pairwise_cons.mp ordered
    cases given : marked row with
    | true =>
      have joined := (later rest start (row,index) (index + 1)).1 rfl
      have alone := (later rest row (row,index) (index + 1)).1 rfl
      have shape : stretches marked (row :: rows) = continued row row rows (stretches marked rows) := by simp [stretches,given]
      constructor
      · intro next
        simp only [List.zipIdx_cons,List.filter_cons,given,if_true,groupMissing,next]
        rw [joined,shape]
        unfold continued
        cases stretches marked rows with
        | nil => simp
        | cons first others => by_cases same : rows.head? = some first.1 <;> simp [same]
      · intro far
        have apart : index ≠ previous.2 + 1 := by omega
        simp only [List.zipIdx_cons,List.filter_cons,given,if_true,groupMissing,apart,if_false]
        rw [alone,shape]
        rfl
    | false =>
      have shape : stretches marked (row :: rows) = stretches marked rows := by simp [stretches,given]
      have skipped := (later rest start previous (index + 1)).2
      constructor
      · intro next
        simp only [List.zipIdx_cons,List.filter_cons,given,Bool.false_eq_true,if_false]
        rw [skipped (by omega),shape]
        unfold continued
        cases found : stretches marked rows with
        | nil => rfl
        | cons first others =>
          have inside := stretches_start rest (found ▸ List.mem_cons_self ..)
          have differs : row ≠ first.1 := (before _ inside).ne
          simp [differs]
      · intro far
        simp only [List.zipIdx_cons,List.filter_cons,given,Bool.false_eq_true,if_false]
        rw [skipped (by omega),shape]

-- The loop from the first missing session on gives the stretches.
theorem grouped_stretches (ordered : rows.Pairwise (· < ·)) (index : Nat)
    (found : (rows.zipIdx index).filter (fun row => marked row.1) = first :: rest) :
    groupMissing first.1 first rest = (stretches marked rows).map rangeOf := by
  induction rows generalizing index with
  | nil => cases found
  | cons row rows later =>
    obtain ⟨before,tail⟩ := List.pairwise_cons.mp ordered
    cases given : marked row with
    | true =>
      simp only [List.zipIdx_cons,List.filter_cons,given,if_true] at found
      cases found
      rw [(group_stretches marked rows tail row (row,index) (index + 1)).1 rfl]
      simp [stretches,given]
    | false =>
      simp only [List.zipIdx_cons,List.filter_cons,given,Bool.false_eq_true,if_false] at found
      rw [later tail (index + 1) found]
      simp [stretches,given]

end OpenStock.CurrentSymbol.Ohlcv
