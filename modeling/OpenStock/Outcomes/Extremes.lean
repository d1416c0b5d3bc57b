import OpenStock.Outcomes.Windows

namespace OpenStock.Outcomes
open Text Calendar CorporateActions

/- `max_gain` and `max_drawdown` against the forward return. -/

variable {values : List ℚ}

theorem maxGain_some {entry gain : ℚ} (read : maxGain values entry = some gain) :
    (∃ value ∈ values, gain = value / entry - 1) ∧ ∀ value ∈ values, value / entry - 1 ≤ gain := by
  rw [maxGain] at read
  split at read
  · cases read
  · obtain ⟨reached,upper⟩ := List.max?_eq_some_iff.mp read
    obtain ⟨value,member,rfl⟩ := List.mem_map.mp reached
    exact ⟨⟨value,member,rfl⟩,fun other present => upper _ (List.mem_map_of_mem present)⟩

theorem maxDrawdown_some {entry drawdown : ℚ} (read : maxDrawdown values entry = some drawdown) :
    (∃ value ∈ values, drawdown = value / entry - 1) ∧ ∀ value ∈ values, drawdown ≤ value / entry - 1 := by
  rw [maxDrawdown] at read
  split at read
  · cases read
  · obtain ⟨reached,lower⟩ := List.min?_eq_some_iff.mp read
    obtain ⟨value,member,rfl⟩ := List.mem_map.mp reached
    exact ⟨⟨value,member,rfl⟩,fun other present => lower _ (List.mem_map_of_mem present)⟩

section entry
variable {entry : ℚ} (positive : 0 < entry)
include positive

theorem maxGain_exists (present : value ∈ values) : ∃ gain, maxGain values entry = some gain := by
  rw [maxGain,if_neg positive.ne']
  cases values with
  | nil => cases present
  | cons head rest => exact ⟨_,rfl⟩

theorem maxDrawdown_exists (present : value ∈ values) : ∃ drawdown, maxDrawdown values entry = some drawdown := by
  rw [maxDrawdown,if_neg positive.ne']
  cases values with
  | nil => cases present
  | cons head rest => exact ⟨_,rfl⟩

theorem return_le : left / entry - 1 ≤ right / entry - 1 ↔ left ≤ right := by
  rw [sub_le_sub_iff_right,div_le_div_iff_of_pos_right positive]

-- One series reaches as high as another when each value of the other is met.
theorem gains_le (some' : maxGain closes entry = some gain) (other : maxGain highs entry = some wider) :
    gain ≤ wider ↔ ∀ close ∈ closes, ∃ high ∈ highs, close ≤ high := by
  obtain ⟨⟨top,reached,rfl⟩,upper⟩ := maxGain_some some'
  obtain ⟨⟨peak,attained,rfl⟩,above⟩ := maxGain_some other
  constructor
  · intro ordered close present
    exact ⟨peak,attained,(return_le positive).mp ((upper close present).trans ordered)⟩
  · intro met
    obtain ⟨high,present,below⟩ := met top reached
    exact ((return_le positive).mpr below).trans (above high present)

theorem drawdowns_le (some' : maxDrawdown closes entry = some drawdown)
    (other : maxDrawdown lows entry = some wider) : wider ≤ drawdown ↔ ∀ close ∈ closes, ∃ low ∈ lows, low ≤ close := by
  obtain ⟨⟨bottom,reached,rfl⟩,lower⟩ := maxDrawdown_some some'
  obtain ⟨⟨trough,attained,rfl⟩,below⟩ := maxDrawdown_some other
  constructor
  · intro ordered close present
    exact ⟨trough,attained,(return_le positive).mp (ordered.trans (lower close present))⟩
  · intro met
    obtain ⟨low,present,under⟩ := met bottom reached
    exact (below low present).trans ((return_le positive).mpr under)

end entry

/- The window holds the entry bar and the exit bar, unless it is empty. -/

theorem window_exit (placed : exitBar future horizon = some exit) :
    getForwardWindow future horizon = [] ∨ exit ∈ getForwardWindow future horizon := by
  unfold exitBar item at placed
  unfold getForwardWindow
  split at placed
  · right
    obtain ⟨bound,rfl⟩ := List.getElem?_eq_some_iff.mp placed
    rw [if_pos (by omega),List.mem_take_iff_getElem]
    exact ⟨(horizon - 1).toNat,by omega,rfl⟩
  · split at placed
    · obtain ⟨bound,rfl⟩ := List.getElem?_eq_some_iff.mp placed
      by_cases none_ : horizon = 0
      · left
        simp [none_]
      · right
        rw [if_neg (by omega),List.mem_take_iff_getElem]
        exact ⟨(horizon - 1 + future.length).toNat,by omega,rfl⟩
    · cases placed

theorem window_entry (opened : future.head? = some entry) :
    getForwardWindow future horizon = [] ∨ entry ∈ getForwardWindow future horizon := by
  obtain ⟨rest,rfl⟩ := List.head?_eq_some_iff.mp opened
  unfold getForwardWindow
  generalize (if 0 ≤ horizon then horizon else horizon + (entry :: rest).length).toNat = count
  cases count with
  | zero => simp
  | succ count => simp

/- The claims on a record. -/

def WithinExtremes (record : CandidateOutcome) : Prop :=
  (∀ drawdown forward, record.maxDrawdown = some drawdown → record.forwardReturn = some forward → drawdown ≤ forward) ∧
    ∀ gain forward, record.maxGain = some gain → record.forwardReturn = some forward → forward ≤ gain

def AroundZero (record : CandidateOutcome) : Prop :=
  (∀ drawdown, record.maxDrawdown = some drawdown → drawdown ≤ 0) ∧ ∀ gain, record.maxGain = some gain → 0 ≤ gain

-- The second record reaches at least as far as the first.
def Wider (narrow wide : CandidateOutcome) : Prop :=
  (∀ drawdown deeper, narrow.maxDrawdown = some drawdown → wide.maxDrawdown = some deeper → deeper ≤ drawdown) ∧
    ∀ gain higher, narrow.maxGain = some gain → wide.maxGain = some higher → gain ≤ higher

section evaluated
variable (warehouse : ResearchWarehouse) (candidate : WatchlistRow) (horizon : Int) (symbolBars benchmarkBars : List Bar)
  (runId : Option Text)

-- The record is COMPLETE under the metric policy.
def Completes (metricPolicy : String) (record : CandidateOutcome) : Prop :=
  evaluateSingleCandidate warehouse candidate horizon symbolBars benchmarkBars runId metricPolicy = .ok record ∧
    record.outcomeStatus = .complete

structure ExtremesBracket : Prop where
  closes : ∀ record, Completes warehouse candidate horizon symbolBars benchmarkBars runId closeOnlyV1 record →
    WithinExtremes record ∧ AroundZero record
  ranges : ∀ record, Completes warehouse candidate horizon symbolBars benchmarkBars runId ohlcHighLowV1 record →
    WithinExtremes record
  wider : ∀ narrow wide, Completes warehouse candidate horizon symbolBars benchmarkBars runId closeOnlyV1 narrow →
    Completes warehouse candidate horizon symbolBars benchmarkBars runId ohlcHighLowV1 wide → Wider narrow wide

end evaluated

-- If any bar of the window carries a low, every close is met by one; so for the highs.
def LowsReach (window : List Bar) : Prop :=
  (∃ bar ∈ window, bar.low.isSome) → ∀ bar ∈ window, ∃ other ∈ window, ∃ low, other.low = some low ∧ low ≤ bar.close

def HighsReach (window : List Bar) : Prop :=
  (∃ bar ∈ window, bar.high.isSome) → ∀ bar ∈ window, ∃ other ∈ window, ∃ high, other.high = some high ∧ bar.close ≤ high

def forwardWindow (symbolBars : List Bar) (watchlistDate : Date) (horizon : Int) : List Bar :=
  getForwardWindow (futureBars symbolBars watchlistDate) horizon

variable {warehouse : ResearchWarehouse} {candidate : WatchlistRow} {horizon : Int} {symbolBars benchmarkBars : List Bar}
  {runId : Option Text} {metricPolicy : String}

-- What a COMPLETE record measures: a window around its entry and its exit.
structure Measured (metricPolicy : String) (window : List Bar) (entry exit : Bar) (record : CandidateOutcome) : Prop where
  forward : record.forwardReturn = forwardReturn (some entry.close) (some exit.close)
  gain : record.maxGain =
    maxGain (if metricPolicy = ohlcHighLowV1 then window.filterMap Bar.high else window.map Bar.close) entry.close
  drawdown : record.maxDrawdown =
    maxDrawdown (if metricPolicy = ohlcHighLowV1 then window.filterMap Bar.low else window.map Bar.close) entry.close

theorem complete_measured
    (completes : Completes warehouse candidate horizon symbolBars benchmarkBars runId metricPolicy record) :
    ∃ entry exit, entryBar symbolBars candidate.date = some entry ∧
      exitBar (futureBars symbolBars candidate.date) horizon = some exit ∧
      Measured metricPolicy (forwardWindow symbolBars candidate.date horizon) entry exit record := by
  obtain ⟨ran,complete⟩ := completes
  obtain ⟨entry,_,_,assessed,entered,_,_,_,_,dated,_,_,evaluated⟩ := evaluate_complete ran complete
  obtain ⟨exit,_,_,_,placed,_,_,rfl⟩ := evaluateReturns_complete evaluated complete
  exact ⟨entry,exit,entered,placed,rfl,rfl,rfl⟩

-- The policy decides the extremes alone, not whether the record is complete.
theorem returns_status (dated : twin.watchlistDate = record.watchlistDate) (other : String) :
    (evaluateReturns warehouse twin horizon entryClose future benchmarkBars other).map CandidateOutcome.outcomeStatus =
      (evaluateReturns warehouse record horizon entryClose future benchmarkBars metricPolicy).map
        CandidateOutcome.outcomeStatus := by
  unfold evaluateReturns
  simp only [dated]
  split
  · rfl
  · cases selectExitClose future horizon with
    | error message => rfl
    | ok exitClose =>
      cases selectExitClose (futureBars benchmarkBars record.watchlistDate) horizon with
      | error message => rfl
      | ok benchExit =>
        simp only [bind,Except.bind]
        split
        · split
          · rfl
          · split <;> rfl
        · rfl

theorem evaluated_status (first other : String) :
    (evaluateSingleCandidate warehouse candidate horizon symbolBars benchmarkBars runId other).map
        CandidateOutcome.outcomeStatus =
      (evaluateSingleCandidate warehouse candidate horizon symbolBars benchmarkBars runId first).map
        CandidateOutcome.outcomeStatus := by
  unfold evaluateSingleCandidate
  simp only
  split
  · split
    · rfl
    · split
      · rfl
      · split
        · rfl
        · apply returns_status
          rfl
  · rfl

theorem complete_policy (other : String)
    (completes : Completes warehouse candidate horizon symbolBars benchmarkBars runId metricPolicy record) :
    ∃ twin, Completes warehouse candidate horizon symbolBars benchmarkBars runId other twin := by
  obtain ⟨ran,complete⟩ := completes
  have same : (evaluateSingleCandidate warehouse candidate horizon symbolBars benchmarkBars runId other).map
      CandidateOutcome.outcomeStatus = _ := evaluated_status metricPolicy other
  rw [ran] at same
  cases twinned : evaluateSingleCandidate warehouse candidate horizon symbolBars benchmarkBars runId other with
  | error message =>
    rw [twinned] at same
    cases same
  | ok twin =>
    rw [twinned] at same
    exact ⟨twin,twinned,(Except.ok.inj same).trans complete⟩

/- The window's prices. -/

section window
variable {window : List Bar} {entry exit : Bar}

theorem policy_apart : closeOnlyV1 ≠ ohlcHighLowV1 := by decide

theorem forward_some (positive : 0 < entry.close) :
    forwardReturn (some entry.close) (some exit.close) = some (exit.close / entry.close - 1) := by
  simp [forwardReturn,positive.ne']

theorem closes_within (entered : window = [] ∨ entry ∈ window) (exited : window = [] ∨ exit ∈ window)
    (positive : 0 < entry.close) (measured : Measured closeOnlyV1 window entry exit record) :
    WithinExtremes record ∧ AroundZero record := by
  have gain := measured.gain
  have drawdown := measured.drawdown
  rw [if_neg policy_apart] at gain drawdown
  rcases List.eq_nil_or_concat window with rfl | ⟨_,_,filled⟩
  · simp [maxGain,maxDrawdown] at gain drawdown
    simp [WithinExtremes,AroundZero,gain,drawdown]
  · have inside : entry.close ∈ window.map Bar.close ∧ exit.close ∈ window.map Bar.close :=
      ⟨List.mem_map_of_mem (entered.resolve_left (by simp [filled])),
        List.mem_map_of_mem (exited.resolve_left (by simp [filled]))⟩
    have level : entry.close / entry.close - 1 = 0 := by simp [positive.ne']
    refine ⟨⟨?_,?_⟩,?_,?_⟩
    · intro least forward read returned
      rw [measured.forward,forward_some positive] at returned
      cases returned
      exact (maxDrawdown_some (drawdown ▸ read)).2 _ inside.2
    · intro most forward read returned
      rw [measured.forward,forward_some positive] at returned
      cases returned
      exact (maxGain_some (gain ▸ read)).2 _ inside.2
    · intro least read
      rw [← level]
      exact (maxDrawdown_some (drawdown ▸ read)).2 _ inside.1
    · intro most read
      rw [← level]
      exact (maxGain_some (gain ▸ read)).2 _ inside.1

theorem lows_reach : LowsReach window ↔
    (window.filterMap Bar.low ≠ [] → ∀ close ∈ window.map Bar.close, ∃ low ∈ window.filterMap Bar.low, low ≤ close) := by
  have carried : window.filterMap Bar.low ≠ [] ↔ ∃ bar ∈ window, bar.low.isSome := by
    simp [List.filterMap_eq_nil_iff,Option.isSome_iff_ne_none]
  rw [carried]
  simp only [LowsReach,List.forall_mem_map,List.mem_filterMap]
  constructor
  · intro reach present bar member
    obtain ⟨other,inside,low,read,below⟩ := reach present bar member
    exact ⟨low,⟨other,inside,read⟩,below⟩
  · intro reach present bar member
    obtain ⟨low,⟨other,inside,read⟩,below⟩ := reach present bar member
    exact ⟨other,inside,low,read,below⟩

theorem highs_reach : HighsReach window ↔
    (window.filterMap Bar.high ≠ [] → ∀ close ∈ window.map Bar.close, ∃ high ∈ window.filterMap Bar.high, close ≤ high) := by
  have carried : window.filterMap Bar.high ≠ [] ↔ ∃ bar ∈ window, bar.high.isSome := by
    simp [List.filterMap_eq_nil_iff,Option.isSome_iff_ne_none]
  rw [carried]
  simp only [HighsReach,List.forall_mem_map,List.mem_filterMap]
  constructor
  · intro reach present bar member
    obtain ⟨other,inside,high,read,above⟩ := reach present bar member
    exact ⟨high,⟨other,inside,read⟩,above⟩
  · intro reach present bar member
    obtain ⟨high,⟨other,inside,read⟩,above⟩ := reach present bar member
    exact ⟨other,inside,high,read,above⟩

-- The ranges are the wider measure exactly when the lows and the highs reach every close.
theorem ranges_wider (positive : 0 < entry.close) (narrow : Measured closeOnlyV1 window entry exit closed)
    (wide : Measured ohlcHighLowV1 window entry exit ranged) : Wider closed ranged ↔ LowsReach window ∧ HighsReach window := by
  have gain := narrow.gain
  have drawdown := narrow.drawdown
  have higher := wide.gain
  have deeper := wide.drawdown
  rw [if_neg policy_apart] at gain drawdown
  rw [if_pos rfl] at higher deeper
  rw [lows_reach,highs_reach]
  apply and_congr
  · constructor
    · intro ordered carried close present
      obtain ⟨low,inside⟩ := List.exists_mem_of_ne_nil _ carried
      obtain ⟨least,read⟩ := maxDrawdown_exists positive present
      obtain ⟨lower,reached⟩ := maxDrawdown_exists positive inside
      exact (drawdowns_le positive read reached).mp (ordered _ _ (drawdown.trans read) (deeper.trans reached)) close present
    · intro reach least lower read reached
      rw [drawdown] at read
      rw [deeper] at reached
      obtain ⟨_,inside,_⟩ := (maxDrawdown_some reached).1
      exact (drawdowns_le positive read reached).mpr (reach (List.ne_nil_of_mem inside))
  · constructor
    · intro ordered carried close present
      obtain ⟨high,inside⟩ := List.exists_mem_of_ne_nil _ carried
      obtain ⟨most,read⟩ := maxGain_exists positive present
      obtain ⟨top,reached⟩ := maxGain_exists positive inside
      exact (gains_le positive read reached).mp (ordered _ _ (gain.trans read) (higher.trans reached)) close present
    · intro reach most top read reached
      rw [gain] at read
      rw [higher] at reached
      obtain ⟨_,inside,_⟩ := (maxGain_some reached).1
      exact (gains_le positive read reached).mpr (reach (List.ne_nil_of_mem inside))

-- A measure wider than the closes holds the exit's return too.
theorem ranges_within (exited : window = [] ∨ exit ∈ window) (positive : 0 < entry.close)
    (narrow : Measured closeOnlyV1 window entry exit closed) (wide : Measured ohlcHighLowV1 window entry exit ranged)
    (wider : Wider closed ranged) (within : WithinExtremes closed) : WithinExtremes ranged := by
  have gain := narrow.gain
  have drawdown := narrow.drawdown
  have higher := wide.gain
  have deeper := wide.drawdown
  rw [if_neg policy_apart] at gain drawdown
  rw [if_pos rfl] at higher deeper
  have same : ranged.forwardReturn = closed.forwardReturn := wide.forward.trans narrow.forward.symm
  rw [WithinExtremes,same]
  rcases exited with rfl | inside
  · simp [maxGain,maxDrawdown] at higher deeper
    simp [higher,deeper]
  · constructor
    · intro lower forward read returned
      obtain ⟨least,measured⟩ := maxDrawdown_exists positive (List.mem_map_of_mem inside : exit.close ∈ window.map Bar.close)
      rw [← drawdown] at measured
      exact (wider.1 _ _ measured read).trans (within.1 _ _ measured returned)
    · intro top forward read returned
      obtain ⟨most,measured⟩ := maxGain_exists positive (List.mem_map_of_mem inside : exit.close ∈ window.map Bar.close)
      rw [← gain] at measured
      exact (within.2 _ _ measured returned).trans (wider.2 _ _ measured read)

end window

theorem extremes_bracket_exact (positive : ∀ bar ∈ symbolBars, 0 < bar.close)
    (completes : Completes warehouse candidate horizon symbolBars benchmarkBars runId metricPolicy record) :
    ExtremesBracket warehouse candidate horizon symbolBars benchmarkBars runId ↔
      LowsReach (forwardWindow symbolBars candidate.date horizon) ∧
      HighsReach (forwardWindow symbolBars candidate.date horizon) := by
  obtain ⟨entry,exit,entered,placed,_⟩ := complete_measured completes
  have opened : 0 < entry.close := positive entry (List.mem_of_find?_eq_some entered)
  have measured : ∀ {policy record}, Completes warehouse candidate horizon symbolBars benchmarkBars runId policy record →
      Measured policy (forwardWindow symbolBars candidate.date horizon) entry exit record := by
    intro policy record completes
    obtain ⟨first,last,start,finish,measured⟩ := complete_measured completes
    rw [entered] at start
    rw [placed] at finish
    cases start
    cases finish
    exact measured
  have inside : forwardWindow symbolBars candidate.date horizon = [] ∨
      entry ∈ forwardWindow symbolBars candidate.date horizon := window_entry (entryBar_future symbolBars candidate.date ▸ entered)
  have held : forwardWindow symbolBars candidate.date horizon = [] ∨
      exit ∈ forwardWindow symbolBars candidate.date horizon := window_exit placed
  constructor
  · intro bracket
    obtain ⟨narrow,closed⟩ := complete_policy closeOnlyV1 completes
    obtain ⟨wide,ranged⟩ := complete_policy ohlcHighLowV1 completes
    exact (ranges_wider opened (measured closed) (measured ranged)).mp (bracket.wider narrow wide closed ranged)
  · intro reach
    refine ⟨?_,?_,?_⟩
    · intro record closed
      exact closes_within inside held opened (measured closed)
    · intro record ranged
      obtain ⟨narrow,closed⟩ := complete_policy closeOnlyV1 completes
      exact ranges_within held opened (measured closed) (measured ranged)
        ((ranges_wider opened (measured closed) (measured ranged)).mpr reach)
        (closes_within inside held opened (measured closed)).1
    · intro narrow wide closed ranged
      exact (ranges_wider opened (measured closed) (measured ranged)).mpr reach

-- Bars that all carry their range reach every close.
theorem full_bars_reach {window : List Bar} (ranged : ∀ bar ∈ window, ∃ high low, bar.high = some high ∧ bar.low = some low ∧
      low ≤ bar.close ∧ bar.close ≤ high) : LowsReach window ∧ HighsReach window := by
  constructor
  · intro _ bar member
    obtain ⟨_,low,_,read,below,_⟩ := ranged bar member
    exact ⟨bar,member,low,read,below⟩
  · intro _ bar member
    obtain ⟨high,_,read,_,_,above⟩ := ranged bar member
    exact ⟨bar,member,high,read,above⟩

/- VIC trades on two days; the second bar carries its range or not. -/

def rangedBar (symbol : Text) (day : Date) (close : ℚ) (high low : Option ℚ) : CanonicalBar :=
  {sampleBar symbol day close with high:=high,low:=low}

def rangedBars (high low : Option ℚ) : List CanonicalBar :=
  [rangedBar "VIC".toList (marchDay 4 day_4) 10 (some 11) (some 9),
    rangedBar "VIC".toList (marchDay 5 day_5) 20 high low,
    rangedBar benchmarkSymbol (marchDay 4 day_4) 100 none none,
    rangedBar benchmarkSymbol (marchDay 5 day_5) 100 none none]

def rangedWarehouse (high low : Option ℚ) : ResearchWarehouse :=
  ⟨emptyActions [],⟨[],[],[],[],[],[]⟩,rangedBars high low⟩

def rangedEvaluation (high low : Option ℚ) (metricPolicy : String) : Except String CandidateOutcome :=
  evaluateSingleCandidate (rangedWarehouse high low) sampleCandidate 2 (getOhlcvBars (rangedBars high low) "VIC".toList)
    (getOhlcvBars (rangedBars high low) benchmarkSymbol) none metricPolicy

theorem ranged_completes (reported : (rangedEvaluation high low metricPolicy).toOption.map
      (fun record => (record.outcomeStatus,record.maxGain,record.forwardReturn)) = some (.complete,gain,forward)) :
    ∃ record, Completes (rangedWarehouse high low) sampleCandidate 2 (getOhlcvBars (rangedBars high low) "VIC".toList)
      (getOhlcvBars (rangedBars high low) benchmarkSymbol) none metricPolicy record ∧ record.maxGain = gain ∧
      record.forwardReturn = forward := by
  cases ran : rangedEvaluation high low metricPolicy with
  | error message =>
    rw [ran] at reported
    cases reported
  | ok record =>
    rw [ran] at reported
    simp only [Except.toOption,Option.map_some,Option.some.injEq,Prod.mk.injEq] at reported
    exact ⟨record,⟨ran,reported.1⟩,reported.2⟩

theorem extremes_bracket_exact_sample : ExtremesBracket (rangedWarehouse (some 21) (some 10)) sampleCandidate 2
    (getOhlcvBars (rangedBars (some 21) (some 10)) "VIC".toList)
    (getOhlcvBars (rangedBars (some 21) (some 10)) benchmarkSymbol) none := by
  obtain ⟨record,completes,_⟩ := ranged_completes
    (show (rangedEvaluation (some 21) (some 10) closeOnlyV1).toOption.map
      (fun record => (record.outcomeStatus,record.maxGain,record.forwardReturn)) = some (.complete,some 1,some 1) by
        decide +kernel)
  refine (extremes_bracket_exact (by decide) completes).mpr (full_bars_reach ?_)
  have window : forwardWindow (getOhlcvBars (rangedBars (some 21) (some 10)) "VIC".toList) sampleCandidate.date 2 =
      [⟨marchDay 4 (by decide),10,some 11,some 9⟩,⟨marchDay 5 (by decide),20,some 21,some 10⟩] := by decide
  rw [window]
  simp only [List.forall_mem_cons]
  exact ⟨⟨11,9,rfl,rfl,by norm_num⟩,⟨21,10,rfl,rfl,by norm_num⟩,by simp⟩

-- The exit bar lacks its high: the best price of the window stays below the exit.
theorem gain_below_return : ¬ ∀ (warehouse : ResearchWarehouse) (candidate : WatchlistRow) (horizon : Int)
    (symbolBars benchmarkBars : List Bar) (runId : Option Text), (∀ bar ∈ symbolBars ++ benchmarkBars, 0 < bar.close) →
    (∀ bar ∈ symbolBars ++ benchmarkBars, ∀ high low, bar.high = some high → bar.low = some low →
      low ≤ bar.close ∧ bar.close ≤ high) → ExtremesBracket warehouse candidate horizon symbolBars benchmarkBars runId := by
  intro brackets
  obtain ⟨record,completes,gain,forward⟩ := ranged_completes
    (show (rangedEvaluation none none ohlcHighLowV1).toOption.map
      (fun record => (record.outcomeStatus,record.maxGain,record.forwardReturn)) =
        some (.complete,some (1 / 10),some 1) by decide +kernel)
  have bracket := brackets (rangedWarehouse none none) sampleCandidate 2 (getOhlcvBars (rangedBars none none) "VIC".toList)
    (getOhlcvBars (rangedBars none none) benchmarkSymbol) none (by decide) ?_
  · have below := (bracket.ranges record completes).2 _ _ gain forward
    norm_num at below
  · have ranged : ∀ bar ∈ getOhlcvBars (rangedBars none none) "VIC".toList ++
        getOhlcvBars (rangedBars none none) benchmarkSymbol, bar.low.all (fun low => decide (low ≤ bar.close)) = true ∧
          bar.high.all (fun high => decide (bar.close ≤ high)) = true := by decide
    intro bar member high low highest lowest
    have both := ranged bar member
    rw [highest,lowest] at both
    exact ⟨of_decide_eq_true both.1,of_decide_eq_true both.2⟩

end OpenStock.Outcomes
