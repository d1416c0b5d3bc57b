import Mathlib.Algebra.Order.BigOperators.Group.List
import Mathlib.Data.Finset.Card
import Mathlib.Data.List.Dedup
import OpenStock.Ranking.OnePolicy

namespace OpenStock.Ranking
open Text Calendar Warehouse

/- The numbers of a replay: the equity curve, its drawdowns, and the turnover
between the selections. -/

section
variable {zone : SessionZone} {warehouse : RankingWarehouse} {spec : ReplaySpec}

-- The first rows of a date in the order of their ranks.
def selectedRows (warehouse : RankingWarehouse) (spec : ReplaySpec) (date : Date) : List OutcomeRow :=
  (periodRows warehouse spec date).take spec.topN.toNat

theorem selected_symbols_nodup (date : Date) : ((selectedRows warehouse spec date).map OutcomeRow.symbol).Nodup := by
  have keys : ((periodRows warehouse spec date).map OutcomeRow.key).Nodup := by
    have kept := warehouse.distinct.sublist ((List.filter_sublist (p := fun row : OutcomeRow =>
      row.watchlistDate == date && spec.selects row)).map OutcomeRow.key)
    exact ((perm_sortBy _ _).map OutcomeRow.key).nodup_iff.mpr kept
  have taken : ((selectedRows warehouse spec date).map OutcomeRow.key).Nodup := keys.sublist ((List.take_sublist _ _).map _)
  apply List.Nodup.map_on _ (List.Nodup.of_map OutcomeRow.key taken)
  intro first inside second outside same
  obtain ⟨stored,dated,chosen⟩ := mem_periodRows.mp (List.mem_of_mem_take inside)
  obtain ⟨kept,again,also⟩ := mem_periodRows.mp (List.mem_of_mem_take outside)
  have horizon : first.horizonSessions = spec.horizonSessions ∧ second.horizonSessions = spec.horizonSessions := by
    simp only [ReplaySpec.selects,Bool.and_eq_true,beq_iff_eq] at chosen also
    exact ⟨chosen.1,also.1⟩
  apply Rows.same_row warehouse.distinct stored kept
  rw [OutcomeRow.key,OutcomeRow.key,same,dated,again,horizon.1,horizon.2]

theorem entered_card (listedOnce : current.Nodup) (previous : List Text) :
    entered current previous = (current.toFinset \ previous.toFinset).card := by
  have kept : current.toFinset \ previous.toFinset = (current.filter (fun symbol => symbol ∉ previous)).toFinset := by
    ext symbol
    simp
  rw [kept,List.toFinset_card_of_nodup (listedOnce.filter _),entered,List.countP_eq_length_filter]

/- What a period reports, given the periods before it. -/

variable [ReplayHash]

def growth (periods : List (ReplayPeriod ReplayHash.Digest)) : ℚ :=
  (periods.map (fun period => 1 + period.periodExcessReturn)).prod

def highest (periods : List (ReplayPeriod ReplayHash.Digest)) : ℚ :=
  (periods.map ReplayPeriod.equityValue).foldl max 1

def deepest (periods : List (ReplayPeriod ReplayHash.Digest)) : ℚ :=
  (periods.map ReplayPeriod.drawdown).foldl min 0

-- The selection of the last period, nothing before the first.
def lastSelected (periods : List (ReplayPeriod ReplayHash.Digest)) : Finset Text :=
  (periods.getLast?.elim [] ReplayPeriod.selectedSymbols).toFinset

structure PeriodExact (warehouse : RankingWarehouse) (spec : ReplaySpec) (earlier : List (ReplayPeriod ReplayHash.Digest))
    (period : ReplayPeriod ReplayHash.Digest) (event : Rebalance) : Prop where
  equity : period.equityValue = growth (earlier ++ [period])
  drawdown : period.drawdown = period.equityValue / highest (earlier ++ [period]) - 1
  noGain : period.drawdown ≤ 0
  selection : period.selectedSymbols = (selectedRows warehouse spec period.watchlistDate).map OutcomeRow.symbol
  excess : ∃ returns, returns ≠ [] ∧
    (selectedRows warehouse spec period.watchlistDate).map OutcomeRow.excessReturn = returns.map some ∧
    period.periodExcessReturn = returns.sum / returns.length - spec.costBps / 10000 * period.turnover.getD 1
  first : earlier = [] → period.turnover = none
  later : earlier ≠ [] → ∃ turnover, period.turnover = some turnover ∧ 0 ≤ turnover ∧ turnover ≤ 1 ∧
    turnover = (period.selectedSymbols.toFinset \ lastSelected earlier).card / period.selectedSymbols.toFinset.card
  entered : event.enteredSymbols.toFinset = period.selectedSymbols.toFinset \ lastSelected earlier
  dated : event.watchlistDate = period.watchlistDate.isoformat

structure PeriodsExact (warehouse : RankingWarehouse) (spec : ReplaySpec) (periods : List (ReplayPeriod ReplayHash.Digest))
    (events : List Rebalance) : Prop where
  paired : events.length = periods.length
  each : ∀ index (inside : index < periods.length) (written : index < events.length),
    PeriodExact warehouse spec (periods.take index) periods[index] events[index]

theorem periods_append {periods : List (ReplayPeriod ReplayHash.Digest)}
    (exact_ : PeriodsExact warehouse spec periods events) (last : PeriodExact warehouse spec periods period event) :
    PeriodsExact warehouse spec (periods ++ [period]) (events ++ [event]) := by
  refine ⟨by simp [exact_.paired],?_⟩
  intro index inside written
  have bound : index < periods.length ∨ index = periods.length := by
    rw [List.length_append,List.length_singleton] at inside
    omega
  rcases bound with earlier | rfl
  · have kept := exact_.each index earlier (exact_.paired ▸ earlier)
    rw [List.take_append_of_le_length earlier.le,List.getElem_append_left earlier,
      List.getElem_append_left (exact_.paired ▸ earlier)]
    exact kept
  · have latest : (events ++ [event])[periods.length] = event := by
      rw [List.getElem_append_right (by rw [exact_.paired])]
      simp [exact_.paired]
    rw [latest,List.take_left,List.getElem_append_right le_rfl]
    simpa using last

/- The scan. -/

structure ScanExact (warehouse : RankingWarehouse) (spec : ReplaySpec) (scan : ReplayScan) : Prop where
  periods : PeriodsExact warehouse spec scan.periods scan.eventLedger
  equity : scan.equity = growth scan.periods
  peak : scan.peak = highest scan.periods
  maxDrawdown : scan.maxDrawdown = deepest scan.periods
  previous : scan.previousSelected = scan.periods.getLast?.map ReplayPeriod.selectedSymbols

variable (periods : List (ReplayPeriod ReplayHash.Digest)) (period : ReplayPeriod ReplayHash.Digest)

theorem highest_append : highest (periods ++ [period]) = max (highest periods) period.equityValue := by
  simp [highest]

theorem deepest_append : deepest (periods ++ [period]) = min (deepest periods) period.drawdown := by
  simp [deepest]

theorem growth_append : growth (periods ++ [period]) = growth periods * (1 + period.periodExcessReturn) := by
  simp [growth]

theorem highest_one : 1 ≤ highest periods := by
  induction periods using List.reverseRecOn with
  | nil => simp [highest]
  | append_singleton periods period ih =>
    rw [highest_append]
    exact ih.trans (le_max_left _ _)

omit [ReplayHash] in
theorem complete_returns {rows : List OutcomeRow} (full : (rows.filterMap OutcomeRow.excessReturn).length = rows.length) :
    rows.map OutcomeRow.excessReturn = (rows.filterMap OutcomeRow.excessReturn).map some := by
  induction rows with
  | nil => rfl
  | cons row rows ih =>
    have bound := List.length_filterMap_le OutcomeRow.excessReturn rows
    cases read : row.excessReturn with
    | none =>
      rw [List.filterMap_cons_none read,List.length_cons] at full
      omega
    | some value =>
      rw [List.filterMap_cons_some read,List.length_cons,List.length_cons] at full
      rw [List.map_cons,List.filterMap_cons_some read,List.map_cons,read,ih (by omega)]

omit [ReplayHash] in
-- The share of the selection that is new lies between nothing and everything.
theorem turnover_share (listedOnce : current.Nodup) (present : current ≠ []) (previous : List Text) :
    ∃ share, turnover current (some previous) = some share ∧ 0 ≤ share ∧ share ≤ 1 ∧
      share = (current.toFinset \ previous.toFinset).card / current.toFinset.card := by
  have size : (0 : ℚ) < current.toFinset.card := by
    rw [List.toFinset_card_of_nodup listedOnce,Nat.cast_pos]
    exact List.length_pos_of_ne_nil present
  refine ⟨(current.toFinset \ previous.toFinset).card / current.toFinset.card,?_,?_,?_,rfl⟩
  · rw [turnover,if_neg present,entered_card listedOnce,List.toFinset_card_of_nodup listedOnce]
  · positivity
  · rw [div_le_one size,Nat.cast_le]
    exact Finset.card_le_card Finset.sdiff_subset

theorem append_exact (held : ScanExact warehouse spec scan) (index : Nat) (date : Date) (policyHash : Text)
    (resolved : PointInTimeUniverse) (present : selectedRows warehouse spec date ≠ [])
    (full : ((selectedRows warehouse spec date).filterMap OutcomeRow.excessReturn).length =
      (selectedRows warehouse spec date).length) :
    ScanExact warehouse spec (scan.append spec index date policyHash resolved (periodRows warehouse spec date)
      (selectedRows warehouse spec date) ((selectedRows warehouse spec date).filterMap OutcomeRow.excessReturn)) := by
  have listedOnce : ((selectedRows warehouse spec date).map OutcomeRow.symbol).Nodup := selected_symbols_nodup date
  have symbols : (selectedRows warehouse spec date).map OutcomeRow.symbol ≠ [] := by simpa using present
  have returns : (selectedRows warehouse spec date).filterMap OutcomeRow.excessReturn ≠ [] := by
    intro none'
    rw [none',eq_comm,List.length_nil,List.length_eq_zero_iff] at full
    exact present full
  unfold ReplayScan.append
  dsimp only
  refine ⟨periods_append held.periods ?_,?_,?_,?_,?_⟩
  · constructor
    · rw [growth_append,held.equity]
    · rw [highest_append,held.peak]
    · have started : 1 ≤ scan.peak := held.peak ▸ highest_one scan.periods
      have peak : ∀ level, 0 < max scan.peak level := fun level => lt_of_lt_of_le one_pos (started.trans (le_max_left _ _))
      exact sub_nonpos.mpr ((div_le_one (peak _)).mpr (le_max_right _ _))
    · rfl
    · exact ⟨_,returns,complete_returns full,rfl⟩
    · intro empty
      rw [held.previous,empty]
      rfl
    · intro nonempty
      rw [held.previous,lastSelected]
      cases found : scan.periods.getLast? with
      | none => exact absurd (List.getLast?_eq_none_iff.mp found) nonempty
      | some last => exact turnover_share listedOnce symbols last.selectedSymbols
    · rw [held.previous,lastSelected]
      cases scan.periods.getLast? with
      | none | some last =>
        ext symbol
        simp [(perm_sortBy _ _).mem_iff]
    · rfl
  · rw [growth_append,held.equity]
  · rw [highest_append,held.peak]
  · rw [deepest_append,held.maxDrawdown]
  · simp

theorem step_exact (held : ScanExact warehouse spec scan)
    (ran : ReplayScan.step zone warehouse spec scan entry = .ok next) : ScanExact warehouse spec next := by
  unfold ReplayScan.step at ran
  dsimp only at ran
  split at ran
  · cases ran
    exact ⟨held.periods,held.equity,held.peak,held.maxDrawdown,held.previous⟩
  · obtain ⟨identity,_,ran⟩ := bind_ok ran
    obtain ⟨resolved,_,ran⟩ := bind_ok ran
    have observed : ScanExact warehouse spec (scan.observe identity) :=
      ⟨held.periods,held.equity,held.peak,held.maxDrawdown,held.previous⟩
    split at ran
    · cases ran
      exact ⟨held.periods,held.equity,held.peak,held.maxDrawdown,held.previous⟩
    · rename_i present
      split at ran
      · cases ran
      · rename_i full
        cases ran
        exact append_exact observed entry.2 entry.1 identity.1 resolved present (not_not.mp full)

structure ReplayExact (warehouse : RankingWarehouse) (spec : ReplaySpec) (result : ReplayResult) : Prop where
  periods : PeriodsExact warehouse spec result.periods result.eventLedger
  maxDrawdown : result.maxDrawdown = if result.periods = [] then none else some (deepest result.periods)

theorem replay_arithmetic [SqlCasts] {result : ReplayResult} (returned : runReplay zone warehouse spec = .ok result) :
    ReplayExact warehouse spec result := by
  unfold runReplay at returned
  iterate 3
    split at returned
    · cases returned
  split at returned
  · obtain ⟨scan,ran,made⟩ := bind_ok returned
    let good : List (Date × Nat) → ReplayScan → Prop := fun _ scan => ScanExact warehouse spec scan
    have initial : good [] ⟨[],[],[],[],none,none,spec.adjustmentVersion,1,1,0⟩ := by
      refine ⟨⟨rfl,?_⟩,rfl,rfl,rfl,rfl⟩
      intro index inside
      cases inside
    have kept : ∀ done scan entry next, good done scan → ReplayScan.step zone warehouse spec scan entry = .ok next →
        good (done ++ [entry]) next := fun _ _ _ _ before stepped => step_exact before stepped
    have held : good _ scan := foldlM_done initial kept ran
    cases made
    refine ⟨held.periods,?_⟩
    show (if scan.periods = [] then none else some scan.maxDrawdown) = _
    rw [held.maxDrawdown]
    rfl
  · cases returned

end

/- Two days, each with a selection of its own. -/

def nextDay : Date := .of 2024 3 18

def turnedWarehouse : RankingWarehouse :=
  {sampleWarehouse [sampleOutcome "AAA".toList "COMPLETE".toList,
      {sampleOutcome "BBB".toList "COMPLETE".toList with watchlistDate := nextDay,excessReturn := some (-1/2)}]
      (by unfold Rows.Distinct; decide) with
    history :=
      ⟨[sampleRow "AAA".toList ['1'] ⟨sampleDay,.midnight⟩ none,sampleRow "BBB".toList ['1'] ⟨sampleDay,.midnight⟩ none],
        by unfold Rows.Distinct; decide⟩}

def turnedSpec : ReplaySpec := {sampleSpec with endDate := nextDay.isoformat,costBps := 10}

theorem replay_arithmetic_sample :
    ∃ result, @runReplay sampleReplayHash sampleCasts sampleZone turnedWarehouse turnedSpec = .ok result ∧
      (@ReplayResult.periods sampleReplayHash result).map (fun period => (period.equityValue,period.drawdown,period.turnover)) =
        [(1999/1000,0,none),(1999/1000 * (499/1000),-501/1000,some 1)] ∧
      @ReplayExact sampleReplayHash turnedWarehouse turnedSpec result := by
  have present : ((@runReplay sampleReplayHash sampleCasts sampleZone turnedWarehouse turnedSpec).toOption.map
      (fun result => (@ReplayResult.periods sampleReplayHash result).map
        (fun period => (period.equityValue,period.drawdown,period.turnover)))) =
      some [(1999/1000,0,none),(1999/1000 * (499/1000),-501/1000,some 1)] := by
    decide +kernel
  cases returned : @runReplay sampleReplayHash sampleCasts sampleZone turnedWarehouse turnedSpec with
  | error refused =>
    rw [returned] at present
    cases present
  | ok result =>
    rw [returned] at present
    exact ⟨result,rfl,Option.some.inj present,@replay_arithmetic sampleZone turnedWarehouse turnedSpec
      sampleReplayHash sampleCasts result returned⟩

end OpenStock.Ranking
