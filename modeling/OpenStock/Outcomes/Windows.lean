import OpenStock.CorporateActions.Ingested
import OpenStock.Outcomes.Aggregations

namespace OpenStock.Outcomes
open Text Calendar CorporateActions

/- What a COMPLETE record was computed from. -/

variable {warehouse : ResearchWarehouse} {candidate : WatchlistRow} {horizon : Int} {symbolBars benchmarkBars : List Bar}
  {runId : Option Text} {metricPolicy : String} {record result : CandidateOutcome}

theorem selectExitClose_ok (read : selectExitClose bars n = .ok (some close)) :
    ∃ bar, exitBar bars n = some bar ∧ bar.close = close := by
  unfold selectExitClose at read
  split at read
  · split at read
    · rename_i bar placed
      cases read
      exact ⟨bar,placed,rfl⟩
    · cases read
  · cases read

theorem selectEntryClose_some (read : selectEntryClose bars watchlistDate = some close) :
    ∃ bar, entryBar bars watchlistDate = some bar ∧ bar.close = close := by
  simpa [selectEntryClose] using read

-- The bars of the four closes, and the returns computed from them.
structure Legs (record : CandidateOutcome) (horizon : Int) (symbolBars benchmarkBars : List Bar)
    (entry exit benchEntry benchExit : Bar) : Prop where
  entryClose : entryBar symbolBars record.watchlistDate = some entry ∧ record.entryClose = some entry.close
  exitClose : exitBar (futureBars symbolBars record.watchlistDate) horizon = some exit ∧ record.exitClose = some exit.close
  benchmarkEntryClose : entryBar benchmarkBars record.watchlistDate = some benchEntry ∧
    record.benchmarkEntryClose = some benchEntry.close
  benchmarkExitClose : exitBar (futureBars benchmarkBars record.watchlistDate) horizon = some benchExit ∧
    record.benchmarkExitClose = some benchExit.close
  returns : record.forwardReturn = forwardReturn record.entryClose record.exitClose ∧
    record.benchmarkReturn = forwardReturn record.benchmarkEntryClose record.benchmarkExitClose ∧
    record.excessReturnVsVnindex = excessReturnVsVnindex record.forwardReturn record.benchmarkReturn

theorem selectExitClose_complete (enough : isComplete bars n = true) (read : selectExitClose bars n = .ok exit) :
    ∃ bar, exitBar bars n = some bar ∧ exit = some bar.close := by
  rw [selectExitClose,if_pos enough] at read
  split at read
  · rename_i bar placed
    cases read
    exact ⟨bar,placed,rfl⟩
  · cases read

theorem evaluateReturns_complete (ran : evaluateReturns warehouse record horizon entryClose future benchmarkBars metricPolicy =
      .ok result) (complete : result.outcomeStatus = .complete) :
    ∃ exit benchEntry benchExit basis, exitBar future horizon = some exit ∧
      entryBar benchmarkBars record.watchlistDate = some benchEntry ∧
      exitBar (futureBars benchmarkBars record.watchlistDate) horizon = some benchExit ∧ result = measure {record with
        entryClose:=some entryClose
        barsAvailable:=some future.length
        exitClose:=some exit.close
        benchmarkEntryClose:=some benchEntry.close
        benchmarkExitClose:=some benchExit.close
        benchmarkPriceBasis:=basis} metricPolicy entryClose (getForwardWindow future horizon) .complete := by
  unfold evaluateReturns at ran
  simp only at ran
  split at ran
  · cases ran
    cases complete
  · rename_i waits
    obtain ⟨exitClose,closed,ran⟩ := bind_ok ran
    obtain ⟨benchExitClose,benchClosed,ran⟩ := bind_ok ran
    have enough : isComplete future horizon = true := by simpa using waits
    obtain ⟨exit,placed,rfl⟩ := selectExitClose_complete enough closed
    split at ran
    · rename_i benchEntryClose benchExitClose first last opened _ _
      obtain ⟨benchEntry,entered,rfl⟩ := selectEntryClose_some opened
      obtain ⟨benchExit,exited,rfl⟩ := selectExitClose_ok benchClosed
      split at ran
      · cases ran
        cases complete
      · split at ran
        · cases ran
          cases complete
        · rename_i lineage _ _
          cases ran
          refine ⟨exit,benchEntry,benchExit,lineage.priceBasis,placed,entered,exited,?_⟩
          rw [opened]
    · cases ran
      cases complete

-- The symbol's window, over which no action was found, and the record before the returns.
theorem evaluate_complete (ran : evaluateSingleCandidate warehouse candidate horizon symbolBars benchmarkBars runId metricPolicy =
      .ok result) (complete : result.outcomeStatus = .complete) :
    ∃ entry last lineage assessed, entryBar symbolBars candidate.date = some entry ∧
      item (futureBars symbolBars candidate.date) (min horizon (futureBars symbolBars candidate.date).length - 1) = some last ∧
      assessObservationLineage warehouse candidate.symbol entry.time last.time = .ok lineage ∧
      lineage.actionOverlapStatus ≠ .invalid ∧ assessed.symbol = candidate.symbol ∧ assessed.watchlistDate = candidate.date ∧
      assessed.observationStartDate = some entry.time ∧ assessed.observationEndDate = some last.time ∧
      evaluateReturns warehouse assessed horizon entry.close (futureBars symbolBars candidate.date) benchmarkBars
        metricPolicy = .ok result := by
  unfold evaluateSingleCandidate at ran
  simp only at ran
  split at ran
  · rename_i entryClose first opened ahead
    obtain ⟨entry,entered,rfl⟩ := selectEntryClose_some opened
    have same : entry = first := by
      rw [← entryBar_future,entered] at ahead
      exact Option.some.inj ahead
    split at ran
    · cases ran
    · rename_i last placed
      split at ran
      · cases ran
        cases complete
      · rename_i lineage assessed
        split at ran
        · cases ran
          cases complete
        · rename_i clear
          rw [← same] at assessed
          exact ⟨entry,last,lineage,_,entered,placed,assessed,clear,rfl,rfl,congrArg (fun bar => some bar.time) same.symm,rfl,ran⟩
  · cases ran
    cases complete

theorem complete_legs (ran : evaluateSingleCandidate warehouse candidate horizon symbolBars benchmarkBars runId metricPolicy =
      .ok result) (complete : result.outcomeStatus = .complete) :
    ∃ entry exit benchEntry benchExit, Legs result horizon symbolBars benchmarkBars entry exit benchEntry benchExit ∧
      result.watchlistDate = candidate.date := by
  obtain ⟨entry,last,lineage,assessed,entered,_,_,_,_,dated,_,_,evaluated⟩ := evaluate_complete ran complete
  obtain ⟨exit,benchEntry,benchExit,basis,placed,benchEntered,benchExited,rfl⟩ :=
    evaluateReturns_complete evaluated complete
  have entryClose : entryBar symbolBars assessed.watchlistDate = some entry := dated ▸ entered
  have exitClose : exitBar (futureBars symbolBars assessed.watchlistDate) horizon = some exit := dated ▸ placed
  refine ⟨entry,exit,benchEntry,benchExit,?_,dated⟩
  exact {
    entryClose:=⟨entryClose,rfl⟩
    exitClose:=⟨exitClose,rfl⟩
    benchmarkEntryClose:=⟨benchEntered,rfl⟩
    benchmarkExitClose:=⟨benchExited,rfl⟩
    returns:=⟨rfl,rfl,rfl⟩}

-- The excess return of a complete record compares one interval exactly when the
-- benchmark's first and n-th sessions fall on the symbol's days.
theorem complete_windows_agree (benchmarkDated : Dated benchmarkBars) (positive : 1 ≤ horizon)
    (ran : evaluateSingleCandidate warehouse candidate horizon symbolBars benchmarkBars runId metricPolicy = .ok result)
    (complete : result.outcomeStatus = .complete) :
    ∃ entry exit benchEntry benchExit, Legs result horizon symbolBars benchmarkBars entry exit benchEntry benchExit ∧
      ((entry.time = benchEntry.time ∧ exit.time = benchExit.time) ↔
        Session benchmarkBars candidate.date 1 entry.time ∧ Session benchmarkBars candidate.date horizon exit.time) := by
  obtain ⟨entry,exit,benchEntry,benchExit,legs,dated⟩ := complete_legs ran complete
  refine ⟨entry,exit,benchEntry,benchExit,legs,?_⟩
  have first : exitBar (futureBars benchmarkBars candidate.date) 1 = some benchEntry := by
    have entered := legs.benchmarkEntryClose.1
    rw [entryBar_future,dated] at entered
    rw [exitBar,item_nonneg (by decide)]
    simpa [List.head?_eq_getElem?] using entered
  have last : exitBar (futureBars benchmarkBars candidate.date) horizon = some benchExit := dated ▸ legs.benchmarkExitClose.1
  rw [eq_comm,exitBar_session benchmarkDated le_rfl first]
  apply and_congr_right
  intro _
  rw [eq_comm,exitBar_session benchmarkDated positive last]

/- VIC trades on the 4th, 5th and 6th; the benchmark has bars on the given days. -/

def sampleBar (symbol : Text) (day : Date) (close : ℚ) : CanonicalBar :=
  ⟨symbol,⟨day,.midnight⟩,none,none,none,some close,none,some rawUnadjusted,none,none⟩

def sampleSessions : List Date := [marchDay 4 day_4,marchDay 5 day_5,marchDay 6 day_6]

def laterSessions : List Date := [marchDay 5 day_5,marchDay 6 day_6,marchDay 7 day_7]

def sampleCandidate : WatchlistRow := ⟨marchDay 1 day_1,1,"VIC".toList,some 1,none,none,none⟩

def sampleBars (benchmarkSessions : List Date) : List CanonicalBar :=
  sampleSessions.map (fun day => sampleBar "VIC".toList day 10) ++
    benchmarkSessions.map (fun day => sampleBar benchmarkSymbol day 100)

def barsWarehouse (benchmarkSessions : List Date) : ResearchWarehouse :=
  ⟨emptyActions [],⟨[],[],[],[],[],[]⟩,sampleBars benchmarkSessions⟩

def sampleEvaluation (benchmarkSessions : List Date) : Except String CandidateOutcome :=
  evaluateSingleCandidate (barsWarehouse benchmarkSessions) sampleCandidate 2
    (getOhlcvBars (sampleBars benchmarkSessions) "VIC".toList) (getOhlcvBars (sampleBars benchmarkSessions) benchmarkSymbol)
    none closeOnlyV1

def CompleteSample (sessions : List Date) (record : CandidateOutcome) : Prop :=
  sampleEvaluation sessions = .ok record ∧ record.outcomeStatus = .complete ∧ record.watchlistDate = sampleCandidate.date

theorem sample_evaluated (reported : (sampleEvaluation sessions).toOption.map
      (fun record => (record.outcomeStatus,record.watchlistDate)) = some (.complete,sampleCandidate.date)) :
    ∃ record, CompleteSample sessions record := by
  cases ran : sampleEvaluation sessions with
  | error message =>
    rw [ran] at reported
    cases reported
  | ok record =>
    rw [ran] at reported
    obtain ⟨complete,dated⟩ := Prod.mk.inj (Option.some.inj reported)
    exact ⟨record,ran,complete,dated⟩

-- The benchmark's first session after the watchlist date is a day late.
theorem benchmark_window_shifted : ¬ ∀ (warehouse : ResearchWarehouse) (candidate : WatchlistRow) (horizon : Int)
    (symbolBars benchmarkBars : List Bar) (runId : Option Text) (metricPolicy : String) (record : CandidateOutcome)
    (entry exit benchEntry benchExit : Bar), Dated symbolBars → Dated benchmarkBars → 1 ≤ horizon →
    evaluateSingleCandidate warehouse candidate horizon symbolBars benchmarkBars runId metricPolicy = .ok record →
    record.outcomeStatus = .complete → Legs record horizon symbolBars benchmarkBars entry exit benchEntry benchExit →
    entry.time = benchEntry.time ∧ exit.time = benchExit.time := by
  intro agrees
  obtain ⟨record,ran,complete,dated⟩ : ∃ record, CompleteSample laterSessions record :=
    sample_evaluated (by decide)
  obtain ⟨entry,exit,benchEntry,benchExit,legs,_⟩ := complete_legs ran complete
  have same := (agrees _ _ _ _ _ _ _ _ _ _ _ _ (getOhlcvBars_dated _ _) (getOhlcvBars_dated _ _) (by decide) ran complete
    legs).1
  have entered := legs.entryClose.1
  have benchEntered := legs.benchmarkEntryClose.1
  rw [dated] at entered benchEntered
  have apart : ((entryBar (getOhlcvBars (sampleBars laterSessions) "VIC".toList) sampleCandidate.date).map Bar.time) ≠
      (entryBar (getOhlcvBars (sampleBars laterSessions) benchmarkSymbol) sampleCandidate.date).map Bar.time := by
    decide
  apply apart
  rw [entered,benchEntered,Option.map_some,Option.map_some,same]

theorem complete_windows_agree_sample : ∃ record entry exit benchEntry benchExit, CompleteSample sampleSessions record ∧
      Legs record 2 (getOhlcvBars (sampleBars sampleSessions) "VIC".toList)
        (getOhlcvBars (sampleBars sampleSessions) benchmarkSymbol) entry exit benchEntry benchExit ∧
      entry.time = benchEntry.time ∧ exit.time = benchExit.time := by
  obtain ⟨record,ran,complete,dated⟩ : ∃ record, CompleteSample sampleSessions record :=
    sample_evaluated (by decide)
  obtain ⟨entry,exit,benchEntry,benchExit,legs,agrees⟩ :=
    complete_windows_agree (getOhlcvBars_dated _ _) (by decide) ran complete
  refine ⟨record,entry,exit,benchEntry,benchExit,⟨ran,complete,dated⟩,legs,agrees.mpr ?_⟩
  have entered := congrArg (Option.map Bar.time) legs.entryClose.1
  have exited := congrArg (Option.map Bar.time) legs.exitClose.1
  rw [dated] at entered exited
  have opens : (entryBar (getOhlcvBars (sampleBars sampleSessions) "VIC".toList) sampleCandidate.date).map Bar.time =
      some (marchDay 4 (by decide)) := by decide
  have closes : (exitBar (futureBars (getOhlcvBars (sampleBars sampleSessions) "VIC".toList) sampleCandidate.date) 2).map
      Bar.time = some (marchDay 5 (by decide)) := by decide
  have first : entry.time = marchDay 4 (by decide) := Option.some.inj (entered.symm.trans opens)
  have last : exit.time = marchDay 5 (by decide) := Option.some.inj (exited.symm.trans closes)
  rw [first,last]
  unfold Session
  decide

end OpenStock.Outcomes
