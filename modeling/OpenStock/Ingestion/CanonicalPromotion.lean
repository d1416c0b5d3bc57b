import Mathlib.Data.Prod.Lex
import OpenStock.Foundations.Grouping
import OpenStock.Foundations.Rows
import OpenStock.Ingestion.CanonicalValidation

namespace OpenStock.Ingestion
open Text Calendar

/- `build_canonical_ohlcv`: raw observations ranked per bar, and the best one
promoted or quarantined. -/

-- `market_ohlcv_raw`, less its JSON columns.
structure RawBar where
  ingestionRunId : Text
  symbol : Text
  time : DateTime
  interval : Text
  opening : Option ℚ
  high : Option ℚ
  low : Option ℚ
  close : Option ℚ
  volume : Option ℚ
  provider : Option Text
  priceBasis : Option Text
  qualityStatus : Option Text
  fetchedAt : Option Int
deriving DecidableEq

abbrev BarKey := Text × DateTime × Text

structure CanonicalBar where
  symbol : Text
  time : DateTime
  interval : Text
  opening : Option ℚ
  high : Option ℚ
  low : Option ℚ
  close : Option ℚ
  volume : Option ℚ
  selectedProvider : Option Text
  priceBasis : Option Text
  qualityStatus : Option Text
  ingestionRunId : Text
  sourceServiceRunId : Option Text
  selectionAuditId : Option Text
deriving DecidableEq

-- PRIMARY KEY (symbol, time, interval)
def CanonicalBar.key (bar : CanonicalBar) : BarKey := (bar.symbol,bar.time,bar.interval)

structure CanonicalOhlcv where
  rows : List CanonicalBar
  distinct : Rows.Distinct CanonicalBar.key rows

def CanonicalOhlcv.find (table : CanonicalOhlcv) (key : BarKey) : Option CanonicalBar :=
  table.rows.find? (fun bar => bar.key = key)

-- The evidence of one failed candidate; `date` and the JSON details are read off it.
structure RejectedRow where
  symbol : Text
  date : Date
  candidate : CanonicalCandidate
  rules : List CanonicalValidationRule

structure QuarantineRow where
  ingestionRunId : Text
  symbol : Text
  time : DateTime
  interval : Text
  provider : Text
  rules : List CanonicalValidationRule
  invalidValues : List (Option ℚ)
  firstDetectedAt : Int
  lastDetectedAt : Int
  resolutionRef : Option Text

structure AuditObservation where
  provider : Text
  values : List (Option ℚ)
  ingestionRunId : Text
  priceBasis : Option Text

structure AuditPayload where
  symbol : Text
  time : DateTime
  interval : Text
  observations : List AuditObservation
  resolution : IndexConflictResolution

structure SelectionAudit where
  auditId : Text
  payload : AuditPayload

-- The id of an audit, read off the hash of its JSON.
class AuditHash where
  auditId : AuditPayload → Text

structure PromotionTables where
  canonical : CanonicalOhlcv
  rejected : List RejectedRow
  quarantine : List QuarantineRow
  audits : List SelectionAudit

structure BuildRequest where
  symbol : Option Text
  interval : Text
  start : Option Date
  final : Option Date

-- The ValueErrors of the bounds.
inductive RangeError where
  | halfOpen
  | reversed
deriving DecidableEq

def BuildRequest.range (request : BuildRequest) : Except RangeError (Option (Date × Date)) :=
  match request.start,request.final with
  | none,none => .ok none
  | some start,some final => if start.after final then .error .reversed else .ok (some (start,final))
  | _,_ => .error .halfOpen

/- `load_ranked_candidates` -/

def oneDay : Text := "1D".toList

def normalizedTime (interval : Text) (time : DateTime) : DateTime :=
  if interval = oneDay then ⟨time.date,.midnight⟩ else time

-- An unstated basis is raw, but for one provider.
def resolvedBasis (provider priceBasis : Option Text) : Option Text :=
  if sqlUpper (sqlTrim (provider.getD [])) = "FIINQUANTX".toList then priceBasis
  else some (priceBasis.getD rawUnadjusted)

def RawBar.candidate (bar : RawBar) : CanonicalCandidate :=
  {symbol := bar.symbol,timestamp := normalizedTime bar.interval bar.time,interval := bar.interval,
   opening := bar.opening,high := bar.high,low := bar.low,close := bar.close,volume := bar.volume,
   provider := bar.provider,priceBasis := resolvedBasis bar.provider bar.priceBasis,
   qualityStatus := bar.qualityStatus,ingestionRunId := bar.ingestionRunId}

def CanonicalCandidate.key (candidate : CanonicalCandidate) : BarKey :=
  (candidate.symbol,candidate.timestamp,candidate.interval)

def passing (qualityStatus : Option Text) : Bool :=
  sqlLower (sqlTrim (qualityStatus.getD [])) ∈ ["pass".toList,"success".toList]

def RawBar.inScope (symbol : Option Text) (interval : Text) (range : Option (Date × Date)) (bar : RawBar) : Bool :=
  bar.interval == interval && symbol.all (fun symbol => bar.symbol == symbol) &&
    range.all (fun bounds => decide (bounds.1 ≤ bar.time.date ∧ bar.time.date ≤ bounds.2))

abbrev RankKey := Text ×ₗ Date ×ₗ Nat ×ₗ Text ×ₗ Nat ×ₗ Nat ×ₗ Intᵒᵈ ×ₗ Textᵒᵈ

-- The columns of the ORDER BY; `epoch` is the instant of TIMESTAMP '1970-01-01'.
def RawBar.rankKey (epoch : Int) (bar : RawBar) : RankKey :=
  let time := normalizedTime bar.interval bar.time
  toLex (bar.symbol,toLex (time.date,toLex (time.time.toMicroseconds,toLex (bar.interval,
    toLex ((if bar.priceBasis = some rawUnadjusted then 0 else 1),toLex ((if passing bar.qualityStatus then 0 else 1),
      toLex (OrderDual.toDual (bar.fetchedAt.getD epoch),OrderDual.toDual bar.ingestionRunId)))))))

def Ranked (epoch : Int) (left right : RawBar) : Prop := left.rankKey epoch ≤ right.rankKey epoch

instance : DecidableRel (Ranked epoch) := fun left right => inferInstanceAs (Decidable (left.rankKey epoch ≤ right.rankKey epoch))
instance : IsTrans RawBar (Ranked epoch) := ⟨fun _ _ _ => le_trans⟩
instance : Std.Total (Ranked epoch) := ⟨fun left right => le_total (left.rankKey epoch) (right.rankKey epoch)⟩

def loadRankedCandidates (epoch : Int) (raw : List RawBar) (symbol : Option Text) (interval : Text)
    (range : Option (Date × Date)) : List CanonicalCandidate :=
  ((raw.filter (RawBar.inScope symbol interval range)).insertionSort (Ranked epoch)).map RawBar.candidate

/- One bar. -/

-- The preferred provider of an index that has one, else the first.
def selectedPlace (candidates : List CanonicalCandidate) : Nat :=
  match candidates with
  | [] => 0
  | first :: _ =>
    match resolveIndexProviderConflict first.symbol (candidates.filterMap CanonicalCandidate.provider) with
    | none => 0
    | some resolution =>
      (candidates.findIdx? (fun candidate => candidate.provider.any (fun provider =>
        !provider.isEmpty && names provider resolution.selectedProvider))).getD 0

-- The selected candidate and its peers.
def selectCanonicalCandidate (candidates : List CanonicalCandidate) : Option (CanonicalCandidate × List CanonicalCandidate) :=
  candidates[selectedPlace candidates]?.map (fun selected => (selected,candidates.eraseIdx (selectedPlace candidates)))

-- `_passing_bar_candidates`, read from the whole raw table.
def passingBarCandidates (raw : List RawBar) (candidate : CanonicalCandidate) : List AuditObservation :=
  let rows := raw.filter (fun bar => bar.symbol == candidate.symbol && sqlUpper bar.interval == sqlUpper candidate.interval &&
    decide ((if sqlUpper bar.interval = oneDay then (⟨bar.time.date,.midnight⟩ : DateTime) else bar.time) = candidate.timestamp) &&
    passing bar.qualityStatus)
  let ordered := rows.insertionSort (fun left right =>
    toLex (sqlLower (left.provider.getD []),left.ingestionRunId) ≤ toLex (sqlLower (right.provider.getD []),right.ingestionRunId))
  (ordered.filter (fun bar => bar.provider.any (fun provider => !provider.isEmpty))).map (fun bar =>
    ⟨lower (bar.provider.getD []),[bar.opening,bar.high,bar.low,bar.close,bar.volume],bar.ingestionRunId,
      resolvedBasis bar.provider bar.priceBasis⟩)

-- The evidence of a conflicting index selection.
def selectionPayload (raw : List RawBar) (candidate : CanonicalCandidate) : Option AuditPayload := do
  let provider ← candidate.provider
  if !isIndexSymbol candidate.symbol || provider.isEmpty then none
  let observations := passingBarCandidates raw candidate
  let providers := (observations.map AuditObservation.provider).eraseDups
  if providers.length < 2 ∨ (observations.map AuditObservation.values).dedup.length < 2 then none
  let resolution ← resolveIndexProviderConflict candidate.symbol providers
  if !names provider resolution.selectedProvider then none
  return ⟨candidate.symbol,candidate.timestamp,candidate.interval,observations,resolution⟩

def QuarantineRow.key (row : QuarantineRow) : Text × Text × DateTime × Text × Text :=
  (row.ingestionRunId,row.symbol,row.time,row.interval,row.provider)

def persistQuarantine (now : Int) (candidate : CanonicalCandidate) (rules : List CanonicalValidationRule)
    (tables : PromotionTables) : PromotionTables :=
  let rejection : RejectedRow := ⟨candidate.symbol,candidate.timestamp.date,candidate,rules⟩
  let found : QuarantineRow :=
    ⟨candidate.ingestionRunId,candidate.symbol,candidate.timestamp,candidate.interval,candidate.provider.getD [],rules,
      ohlcvValues candidate,now,now,none⟩
  let kept := match tables.quarantine.find? (fun row => row.key = found.key) with
    | some earlier => {found with firstDetectedAt := earlier.firstDetectedAt}
    | none => found
  {tables with
    rejected := Rows.upsert (fun row => (row.symbol,row.date)) tables.rejected rejection,
    quarantine := Rows.upsert QuarantineRow.key tables.quarantine kept}

def deleteCanonicalBar (key : BarKey) (table : CanonicalOhlcv) : CanonicalOhlcv :=
  ⟨Rows.remove CanonicalBar.key key table.rows,Rows.remove_distinct table.distinct key⟩

section
variable [AuditHash]

-- The row of a promoted candidate; the service run of an earlier row stays.
def promotedBar (raw : List RawBar) (candidate : CanonicalCandidate) (earlier : Option CanonicalBar) : CanonicalBar :=
  {symbol := candidate.symbol,time := candidate.timestamp,interval := candidate.interval,
   opening := candidate.opening,high := candidate.high,low := candidate.low,close := candidate.close,
   volume := candidate.volume,selectedProvider := candidate.provider,priceBasis := candidate.priceBasis,
   qualityStatus := some "pass".toList,ingestionRunId := candidate.ingestionRunId,
   sourceServiceRunId := earlier.bind CanonicalBar.sourceServiceRunId,
   selectionAuditId := (selectionPayload raw candidate).map AuditHash.auditId}

def upsertCanonical (raw : List RawBar) (candidate : CanonicalCandidate) (tables : PromotionTables) : PromotionTables :=
  let bar := promotedBar raw candidate (tables.canonical.find candidate.key)
  let audits := match selectionPayload raw candidate with
    | none => tables.audits
    | some payload =>
      if tables.audits.any (fun audit => audit.auditId == AuditHash.auditId payload) then tables.audits
      else tables.audits ++ [⟨AuditHash.auditId payload,payload⟩]
  {tables with
    canonical := ⟨Rows.upsert CanonicalBar.key tables.canonical.rows bar,Rows.upsert_distinct tables.canonical.distinct bar⟩,
    audits := audits}

def resolutionRef (candidate : CanonicalCandidate) (promoted : Option CanonicalBar) : Text :=
  match promoted.bind CanonicalBar.selectionAuditId with
  | none | some [] => "canonical:".toList ++ candidate.ingestionRunId ++ ':' :: candidate.provider.getD []
  | some auditId => "canonical-selection:".toList ++ auditId

def resolveQuarantines (candidate : CanonicalCandidate) (tables : PromotionTables) : PromotionTables :=
  let reference := resolutionRef candidate (tables.canonical.find candidate.key)
  {tables with
    quarantine := Rows.updateWhere (fun row => (row.symbol,row.time,row.interval) == candidate.key)
      (fun row => {row with resolutionRef := some reference}) tables.quarantine}

structure Promotion where
  tables : PromotionTables
  upserted : Nat := 0
  rejected : Nat := 0

def promoteGroup (raw : List RawBar) (now : Int) (promotion : Promotion) (group : BarKey × List CanonicalCandidate) : Promotion :=
  match selectCanonicalCandidate group.2 with
  | none => promotion
  | some (selected,peers) =>
    match validateCandidate selected peers with
    | [] => {promotion with
        tables := resolveQuarantines selected (upsertCanonical raw selected promotion.tables),
        upserted := promotion.upserted + 1}
    | rules =>
      let quarantined := persistQuarantine now selected rules promotion.tables
      {promotion with
        tables := {quarantined with canonical := deleteCanonicalBar selected.key quarantined.canonical},
        rejected := promotion.rejected + 1}

-- `time != CAST(CAST(time AS DATE) AS TIMESTAMP)`
def stray (symbol : Option Text) (interval : Text) (key : BarKey) : Bool :=
  key.2.2 == interval && symbol.all (fun symbol => key.1 == symbol) && key.2.1 != ⟨key.2.1.date,.midnight⟩

def deleteStrayIntradayCanonicalRows (symbol : Option Text) (interval : Text) (table : CanonicalOhlcv) : CanonicalOhlcv :=
  ⟨table.rows.filter (fun bar => !stray symbol interval bar.key),
    table.distinct.sublist (List.filter_sublist.map CanonicalBar.key)⟩

structure BuildCounts where
  upserted : Nat
  rejected : Nat

-- The build over the rows as the database returned them.
def promoteRows (now : Int) (raw : List RawBar) (symbol : Option Text) (interval : Text) (range : Option (Date × Date))
    (tables : PromotionTables) (returned : List RawBar) : PromotionTables × BuildCounts :=
  let promotion := (Grouping.collect CanonicalCandidate.key (returned.map RawBar.candidate)).foldl (promoteGroup raw now)
    {tables := tables}
  let promoted := promotion.tables
  let swept := if interval = oneDay ∧ range = none then
    {promoted with canonical := deleteStrayIntradayCanonicalRows symbol interval promoted.canonical} else promoted
  (swept,⟨promotion.upserted,promotion.rejected⟩)

def promoteRange (epoch now : Int) (raw : List RawBar) (symbol : Option Text) (interval : Text)
    (range : Option (Date × Date)) (tables : PromotionTables) : PromotionTables × BuildCounts :=
  let candidates := loadRankedCandidates epoch raw symbol interval range
  let promotion := (Grouping.collect CanonicalCandidate.key candidates).foldl (promoteGroup raw now) {tables := tables}
  let promoted := promotion.tables
  let swept := if interval = oneDay ∧ range = none then
    {promoted with canonical := deleteStrayIntradayCanonicalRows symbol interval promoted.canonical} else promoted
  (swept,⟨promotion.upserted,promotion.rejected⟩)

def buildCanonicalOhlcv (epoch now : Int) (raw : List RawBar) (request : BuildRequest) (tables : PromotionTables) :
    Except RangeError (PromotionTables × BuildCounts) :=
  request.range.map (fun range => promoteRange epoch now raw request.symbol request.interval range tables)

/- What a build leaves for each bar. -/

-- The candidate a build selects for a bar, with its peers.
def selection (epoch : Int) (raw : List RawBar) (symbol : Option Text) (interval : Text) (range : Option (Date × Date))
    (key : BarKey) : Option (CanonicalCandidate × List CanonicalCandidate) :=
  selectCanonicalCandidate ((loadRankedCandidates epoch raw symbol interval range).filter
    (fun candidate => decide (candidate.key = key)))

def verdict (raw : List RawBar) (members : List CanonicalCandidate) (earlier : Option CanonicalBar) : Option CanonicalBar :=
  match selectCanonicalCandidate members with
  | none => earlier
  | some (selected,peers) =>
    if validateCandidate selected peers = [] then some (promotedBar raw selected earlier) else none

variable (table : CanonicalOhlcv) (bar : CanonicalBar)

omit [AuditHash] in
theorem put_find (sought : BarKey) :
    CanonicalOhlcv.find ⟨Rows.upsert CanonicalBar.key table.rows bar,Rows.upsert_distinct table.distinct bar⟩ sought =
      if sought = bar.key then some bar else table.find sought :=
  Rows.find_upsert table.rows bar sought

omit [AuditHash] in
theorem delete_find (gone sought : BarKey) :
    (deleteCanonicalBar gone table).find sought = if sought = gone then none else table.find sought := by
  have kept : (deleteCanonicalBar gone table).find sought = if decide (sought ≠ gone) then table.find sought else none :=
    Rows.find_filter_key (fun key => decide (key ≠ gone)) table.rows sought
  rw [kept]
  by_cases same : sought = gone <;> simp [same]

omit [AuditHash] in
theorem sweep_find (symbol : Option Text) (interval : Text) (table : CanonicalOhlcv) (sought : BarKey) :
    (deleteStrayIntradayCanonicalRows symbol interval table).find sought =
      if stray symbol interval sought then none else table.find sought := by
  have kept : (deleteStrayIntradayCanonicalRows symbol interval table).find sought =
      if !stray symbol interval sought then table.find sought else none :=
    Rows.find_filter_key (fun key => !stray symbol interval key) table.rows sought
  rw [kept]
  cases stray symbol interval sought <;> rfl

omit [AuditHash] in
theorem selected_member {selected : CanonicalCandidate} {peers members : List CanonicalCandidate}
    (chosen : selectCanonicalCandidate members = some (selected,peers)) : selected ∈ members := by
  obtain ⟨candidate,placed,same⟩ := Option.map_eq_some_iff.mp chosen
  cases same
  exact List.mem_of_getElem? placed

theorem promoteGroup_local (raw : List RawBar) (now : Int) : Grouping.Local CanonicalCandidate.key (promoteGroup raw now)
    (fun promotion key => promotion.tables.canonical.find key) (verdict raw) := by
  intro promotion group sought proper
  unfold promoteGroup verdict
  cases chosen : selectCanonicalCandidate group.2 with
  | none => simp
  | some choice =>
    obtain ⟨selected,peers⟩ := choice
    have keyed : selected.key = group.1 := proper selected (selected_member chosen)
    simp only
    cases rules : validateCandidate selected peers with
    | nil =>
      have put : (resolveQuarantines selected (upsertCanonical raw selected promotion.tables)).canonical.find sought =
          if sought = selected.key then some (promotedBar raw selected (promotion.tables.canonical.find selected.key))
          else promotion.tables.canonical.find sought := put_find _ _ _
      rw [put,keyed]
      by_cases same : sought = group.1
      · rw [if_pos same,if_pos same,same]
        rfl
      · rw [if_neg same,if_neg same]
    | cons first others =>
      have deleted : (deleteCanonicalBar selected.key
          (persistQuarantine now selected (first :: others) promotion.tables).canonical).find sought =
            if sought = selected.key then none else promotion.tables.canonical.find sought := delete_find _ _ _
      rw [deleted,keyed]
      rfl

-- The row of each bar after a build, whatever rows were returned.
theorem promoteRows_find (now : Int) (raw : List RawBar) (symbol : Option Text) (interval : Text)
    (range : Option (Date × Date)) (tables : PromotionTables) (returned : List RawBar) (sought : BarKey) :
    (promoteRows now raw symbol interval range tables returned).1.canonical.find sought =
      if (interval = oneDay ∧ range = none) ∧ stray symbol interval sought = true then none
      else verdict raw ((returned.map RawBar.candidate).filter (fun candidate => decide (candidate.key = sought)))
        (tables.canonical.find sought) := by
  have passed := Grouping.collect_view (promoteGroup_local raw now) (returned.map RawBar.candidate) {tables := tables} sought
  have each : verdict raw [] (tables.canonical.find sought) = tables.canonical.find sought := rfl
  have viewed : (((Grouping.collect CanonicalCandidate.key (returned.map RawBar.candidate)).foldl
      (promoteGroup raw now) {tables := tables}).tables.canonical.find sought) =
        verdict raw ((returned.map RawBar.candidate).filter
          (fun candidate => decide (candidate.key = sought))) (tables.canonical.find sought) := by
    refine passed.trans ?_
    split
    · rename_i empty
      rw [empty,each]
    · rfl
  unfold promoteRows
  simp only
  by_cases full : interval = oneDay ∧ range = none
  · rw [if_pos full]
    simp only [sweep_find,viewed]
    simp [full]
  · rw [if_neg full,if_neg (fun both => full both.1)]
    exact viewed

theorem promoteRange_find (epoch now : Int) (raw : List RawBar) (symbol : Option Text) (interval : Text)
    (range : Option (Date × Date)) (tables : PromotionTables) (sought : BarKey) :
    (promoteRange epoch now raw symbol interval range tables).1.canonical.find sought =
      if (interval = oneDay ∧ range = none) ∧ stray symbol interval sought = true then none
      else verdict raw ((loadRankedCandidates epoch raw symbol interval range).filter
        (fun candidate => decide (candidate.key = sought))) (tables.canonical.find sought) :=
  promoteRows_find now raw symbol interval range tables
    ((raw.filter (RawBar.inScope symbol interval range)).insertionSort (Ranked epoch)) sought

omit [AuditHash] in
theorem find_row : bar ∈ table.rows ↔ table.find bar.key = some bar := by
  constructor
  · intro inside
    cases found : table.find bar.key with
    | none => exact absurd (List.find?_eq_none.mp found bar inside) (by simp)
    | some other =>
      have keyed : other.key = bar.key := by simpa using List.find?_some found
      rw [Rows.same_row table.distinct (List.mem_of_find?_eq_some found) inside keyed]
  · intro found
    exact List.mem_of_find?_eq_some found

section loaded
variable {epoch : Int} {raw : List RawBar} {symbol : Option Text} {interval : Text}

omit [AuditHash] in
theorem normalized_date (interval : Text) (time : DateTime) : (normalizedTime interval time).date = time.date := by
  unfold normalizedTime
  split <;> rfl

omit [AuditHash] in
theorem loaded_midnight {range : Option (Date × Date)} (daily : interval = oneDay)
    (loaded : candidate ∈ loadRankedCandidates epoch raw symbol interval range) :
    stray symbol interval candidate.key = false := by
  obtain ⟨bar,ranked,rfl⟩ := List.mem_map.mp loaded
  have covered := (List.mem_filter.mp ((List.mem_insertionSort _).mp ranked)).2
  simp only [RawBar.inScope,Bool.and_eq_true,beq_iff_eq] at covered
  have time : bar.candidate.timestamp = ⟨bar.time.date,.midnight⟩ := by
    simp only [RawBar.candidate,normalizedTime]
    rw [if_pos (covered.1.1.trans daily)]
  simp [stray,CanonicalCandidate.key,time]

omit [AuditHash] in
-- A bound on the days leaves all observations of a bar within it.
theorem loaded_bounded {key : BarKey} (within : bounds.1 ≤ key.2.1.date ∧ key.2.1.date ≤ bounds.2) :
    (loadRankedCandidates epoch raw symbol interval (some bounds)).filter (fun candidate => decide (candidate.key = key)) =
      (loadRankedCandidates epoch raw symbol interval none).filter (fun candidate => decide (candidate.key = key)) := by
  have selected : ∀ range, (loadRankedCandidates epoch raw symbol interval range).filter (fun candidate => decide (candidate.key = key)) =
      ((raw.filter (fun bar => decide (bar.candidate.key = key) && bar.inScope symbol interval range)).insertionSort
        (Ranked epoch)).map RawBar.candidate := by
    intro range
    rw [loadRankedCandidates,List.filter_map,Grouping.filter_insertionSort,List.filter_filter]
    rfl
  have covered : ∀ bar ∈ raw, (decide (bar.candidate.key = key) && bar.inScope symbol interval (some bounds)) =
      (decide (bar.candidate.key = key) && bar.inScope symbol interval none) := by
    intro bar _
    by_cases keyed : bar.candidate.key = key
    · have day : key.2.1.date = bar.time.date := by
        rw [← keyed]
        exact normalized_date bar.interval bar.time
      rw [day] at within
      simp [keyed,RawBar.inScope,within]
    · simp [keyed]
  rw [selected,selected,List.filter_congr covered]

end loaded

-- The bar carries what the candidate says, and its prices are sound.
structure Carries (bar : CanonicalBar) (candidate : CanonicalCandidate) : Prop where
  prices : bar.opening = candidate.opening ∧ bar.high = candidate.high ∧ bar.low = candidate.low ∧
    bar.close = candidate.close ∧ bar.volume = candidate.volume
  provider : bar.selectedProvider = candidate.provider
  run : bar.ingestionRunId = candidate.ingestionRunId
  basis : bar.priceBasis = candidate.priceBasis
  quality : bar.qualityStatus = some "pass".toList
  sound : SoundPrices bar.opening bar.high bar.low bar.close bar.volume bar.priceBasis

-- Present exactly when the selected candidate triggers no rule, and then its row.
structure Settled (table : CanonicalOhlcv) (key : BarKey) (selected : CanonicalCandidate) (peers : List CanonicalCandidate) :
    Prop where
  present : (∃ bar ∈ table.rows, bar.key = key) ↔ validateCandidate selected peers = []
  carries : ∀ bar ∈ table.rows, bar.key = key → Carries bar selected

section build
variable {epoch now : Int} {raw : List RawBar} {symbol : Option Text} {interval : Text} {range : Option (Date × Date)}
variable {tables : PromotionTables} {key : BarKey} {selected : CanonicalCandidate} {peers : List CanonicalCandidate}

theorem promoteRange_selected (chosen : selection epoch raw symbol interval range key = some (selected,peers)) :
    (promoteRange epoch now raw symbol interval range tables).1.canonical.find key =
      if validateCandidate selected peers = [] then some (promotedBar raw selected (tables.canonical.find key)) else none := by
  have member := List.mem_filter.mp (selected_member chosen)
  have keyed : selected.key = key := of_decide_eq_true member.2
  rw [promoteRange_find,if_neg]
  · rw [verdict]
    exact congrArg (fun choice => match choice with
      | none => tables.canonical.find key
      | some (selected,peers) =>
        if validateCandidate selected peers = [] then some (promotedBar raw selected (tables.canonical.find key)) else none) chosen
  · intro swept
    have kept := loaded_midnight swept.1.1 member.1
    rw [keyed,swept.2] at kept
    cases kept

theorem promoteRange_settled (chosen : selection epoch raw symbol interval range key = some (selected,peers)) :
    Settled (promoteRange epoch now raw symbol interval range tables).1.canonical key selected peers := by
  have found : (promoteRange epoch now raw symbol interval range tables).1.canonical.find key = _ :=
    promoteRange_selected chosen
  have keyed : selected.key = key := of_decide_eq_true (List.mem_filter.mp (selected_member chosen)).2
  by_cases valid : validateCandidate selected peers = []
  · rw [if_pos valid] at found
    have row : (promotedBar raw selected (tables.canonical.find key)).key = key := keyed
    refine ⟨⟨fun _ => valid,fun _ => ⟨_,(find_row _ _).mpr (row ▸ found),row⟩⟩,?_⟩
    intro bar inside same
    have only := (find_row _ bar).mp inside
    rw [same,found] at only
    cases only
    exact ⟨⟨rfl,rfl,rfl,rfl,rfl⟩,rfl,rfl,rfl,rfl,valid_sound valid⟩
  · rw [if_neg valid] at found
    have absent : ∀ bar ∈ (promoteRange epoch now raw symbol interval range tables).1.canonical.rows, bar.key ≠ key := by
      intro bar inside same
      have only := (find_row _ bar).mp inside
      rw [same,found] at only
      cases only
    refine ⟨⟨?_,fun impossible => absurd impossible valid⟩,?_⟩
    · rintro ⟨bar,inside,same⟩
      exact absurd same (absent bar inside)
    · intro bar inside same
      exact absurd same (absent bar inside)

theorem verdict_twice (members : List CanonicalCandidate) (earlier : Option CanonicalBar) :
    verdict raw members (verdict raw members earlier) = verdict raw members earlier := by
  unfold verdict
  cases selectCanonicalCandidate members with
  | none => rfl
  | some choice =>
    by_cases valid : validateCandidate choice.1 choice.2 = []
    · simp only [if_pos valid]
      rfl
    · simp only [if_neg valid]

theorem promoteRange_again (later : Int) (bar : CanonicalBar) : bar ∈ (promoteRange epoch later raw symbol interval range
      (promoteRange epoch now raw symbol interval range tables).1).1.canonical.rows ↔
        bar ∈ (promoteRange epoch now raw symbol interval range tables).1.canonical.rows := by
  rw [find_row,find_row,promoteRange_find,promoteRange_find]
  split
  · rfl
  · rw [verdict_twice]

-- The bounded build against the whole one: the same rows, less what only the whole build sweeps.
theorem promoteRange_whole (within : ∀ bounds, range = some bounds → bounds.1 ≤ key.2.1.date ∧ key.2.1.date ≤ bounds.2) :
    (promoteRange epoch now raw symbol interval none tables).1.canonical.find key =
      if interval = oneDay ∧ stray symbol interval key = true then none
      else (promoteRange epoch now raw symbol interval range tables).1.canonical.find key := by
  have members : (loadRankedCandidates epoch raw symbol interval range).filter (fun candidate => decide (candidate.key = key)) =
      (loadRankedCandidates epoch raw symbol interval none).filter (fun candidate => decide (candidate.key = key)) := by
    cases bounded : range with
    | none => rfl
    | some bounds => exact loaded_bounded (within bounds bounded)
  rw [promoteRange_find,promoteRange_find,members]
  by_cases swept : interval = oneDay ∧ stray symbol interval key = true
  · rw [if_pos swept,if_pos ⟨⟨swept.1,rfl⟩,swept.2⟩]
  · rw [if_neg swept,if_neg (fun both => swept ⟨both.1.1,both.2⟩),if_neg (fun both => swept ⟨both.1.1,both.2⟩)]

-- A row off the days stays as it was when the build is bounded.
theorem promoteRange_leftover (daily : interval = oneDay) (bounded : range ≠ none) (left : stray symbol interval key = true) :
    (promoteRange epoch now raw symbol interval range tables).1.canonical.find key = tables.canonical.find key := by
  have none_ : (loadRankedCandidates epoch raw symbol interval range).filter (fun candidate => decide (candidate.key = key)) = [] := by
    apply List.filter_eq_nil_iff.mpr
    intro candidate loaded same
    have kept := loaded_midnight daily loaded
    rw [of_decide_eq_true same,left] at kept
    cases kept
  rw [promoteRange_find,if_neg (fun both => bounded both.1.2),none_]
  rfl

end build

end

/- One observation made within its day, and a row left at noon by an earlier build. -/

abbrev sampleHash : AuditHash := ⟨fun _ => ['0']⟩

def marchDay : Date := .of 2024 3 15
def noon : DateTime := ⟨marchDay,⟨12,0,0,0,by decide⟩⟩

def sampleRaw : RawBar :=
  {ingestionRunId := ['1'],symbol := "FPT".toList,time := noon,interval := oneDay,opening := some 10,high := some 12,
   low := some 9,close := some 11,volume := some 100,provider := some "KBS".toList,priceBasis := none,
   qualityStatus := some "pass".toList,fetchedAt := none}

def leftoverBar : CanonicalBar :=
  {symbol := "FPT".toList,time := noon,interval := oneDay,opening := none,high := none,low := none,close := some 11,
   volume := none,selectedProvider := none,priceBasis := none,qualityStatus := none,ingestionRunId := ['0'],
   sourceServiceRunId := none,selectionAuditId := none}

def sampleTables : PromotionTables := ⟨⟨[leftoverBar],List.nodup_singleton _⟩,[],[],[]⟩
def wholeRequest : BuildRequest := ⟨none,oneDay,none,none⟩
def dayRequest : BuildRequest := ⟨none,oneDay,some marchDay,some marchDay⟩

end OpenStock.Ingestion
