import OpenStock.Outcomes.Records

namespace OpenStock.Outcomes
open Text Calendar

/- `horizons.py` and `metrics.py`, over the bars `_get_ohlcv_bars` returns. -/

structure Bar where
  time : Date
  close : ℚ
  high : Option ℚ
  low : Option ℚ
deriving DecidableEq

def defaultHorizons : List Int := [5,10,20,60]

def benchmarkSymbol : Text := "VNINDEX".toList

-- The instants of a TIMESTAMP column compare as these numbers do.
def instant (time : DateTime) : Nat := time.date.stamp * 86400000000 + time.time.toMicroseconds

-- `_get_ohlcv_bars`: `ORDER BY time ASC`, bars without a close left out.
def getOhlcvBars (canonical : List CanonicalBar) (symbol : Text) : List Bar :=
  ((canonical.filter (fun bar => bar.symbol = symbol)).insertionSort
      (fun left right => instant left.time ≤ instant right.time)).filterMap
    (fun bar => bar.close.map (fun close => ⟨bar.time.date,close,bar.high,bar.low⟩))

-- `list[index]`; a negative index counts from the end.
def item (values : List α) (index : Int) : Option α :=
  if 0 ≤ index then values[index.toNat]?
  else if 0 ≤ index + values.length then values[(index + values.length).toNat]? else none

-- The bars that `select_entry_close` and `select_exit_close` take their close from.
def entryBar (bars : List Bar) (watchlistDate : Date) : Option Bar := bars.find? (fun bar => watchlistDate < bar.time)

def selectEntryClose (bars : List Bar) (watchlistDate : Date) : Option ℚ := (entryBar bars watchlistDate).map Bar.close

def isComplete (barsAfterEntry : List Bar) (n : Int) : Bool := n ≤ barsAfterEntry.length

def exitBar (barsAfterEntry : List Bar) (n : Int) : Option Bar := item barsAfterEntry (n - 1)

-- None with too few bars, an IndexError where the index is out of range.
def selectExitClose (barsAfterEntry : List Bar) (n : Int) : Except String (Option ℚ) :=
  if isComplete barsAfterEntry n then
    match exitBar barsAfterEntry n with
    | some bar => .ok (some bar.close)
    | none => .error "list index out of range"
  else .ok none

-- `bars[:n]`
def getForwardWindow (barsAfterEntry : List Bar) (n : Int) : List Bar :=
  barsAfterEntry.take (if 0 ≤ n then n else n + barsAfterEntry.length).toNat

-- The second part of `split_bars`.
def futureBars (bars : List Bar) (watchlistDate : Date) : List Bar := bars.filter (fun bar => watchlistDate < bar.time)

def closeOnlyV1 : String := "CLOSE_ONLY_V1"

def ohlcHighLowV1 : String := "OHLC_HIGH_LOW_V1"

def forwardReturn (entryClose exitClose : Option ℚ) : Option ℚ :=
  match entryClose,exitClose with
  | some entry,some exit => if entry = 0 then none else some (exit / entry - 1)
  | _,_ => none

def excessReturnVsVnindex (forward benchmark : Option ℚ) : Option ℚ :=
  match forward,benchmark with
  | some forward,some benchmark => some (forward - benchmark)
  | _,_ => none

-- `max_gain` over closes, `max_gain_from_highs` over highs.
def maxGain (values : List ℚ) (entryClose : ℚ) : Option ℚ :=
  if entryClose = 0 then none else (values.map (fun value => value / entryClose - 1)).max?

-- `max_drawdown` over closes, `max_drawdown_from_lows` over lows.
def maxDrawdown (values : List ℚ) (entryClose : ℚ) : Option ℚ :=
  if entryClose = 0 then none else (values.map (fun value => value / entryClose - 1)).min?

def classifyHitFailure (forward excess : Option ℚ) : Option Bool × Option Bool :=
  (excess.map (fun excess => decide (0 < excess)),
    match forward,excess with
    | some forward,some excess => some (decide (forward < 0) && decide (excess < 0))
    | _,_ => none)

/- Bars in the order of their dates. -/

def Dated (bars : List Bar) : Prop := bars.Pairwise (fun earlier later => earlier.time ≤ later.time)

theorem instant_date (sorted : instant left ≤ instant right) : left.date ≤ right.date := by
  have leftTime := left.time.bounded
  have rightTime := right.time.bounded
  rw [stamp_le]
  unfold instant TimeOfDay.toMicroseconds at sorted
  omega

theorem getOhlcvBars_dated (canonical : List CanonicalBar) (symbol : Text) : Dated (getOhlcvBars canonical symbol) := by
  have sorted := List.pairwise_insertionSort (fun left right : CanonicalBar => instant left.time ≤ instant right.time)
    (canonical.filter (fun bar => bar.symbol = symbol))
  unfold Dated getOhlcvBars
  rw [List.pairwise_filterMap]
  apply sorted.imp
  intro earlier later ordered first placed second listed
  obtain ⟨_,_,rfl⟩ := Option.map_eq_some_iff.mp placed
  obtain ⟨_,_,rfl⟩ := Option.map_eq_some_iff.mp listed
  exact instant_date ordered

theorem future_dated (dated : Dated bars) (watchlistDate : Date) : Dated (futureBars bars watchlistDate) :=
  List.Pairwise.filter _ dated

theorem entryBar_future (bars : List Bar) (watchlistDate : Date) :
    entryBar bars watchlistDate = (futureBars bars watchlistDate).head? := by
  rw [entryBar,futureBars,List.head?_filter]

theorem item_nonneg (placed : 0 ≤ index) : item values index = values[index.toNat]? := if_pos placed

-- The n-th session of a series after a date falls on this day.
def Session (bars : List Bar) (watchlistDate : Date) (n : Int) (day : Date) : Prop :=
  (bars.countP (fun bar => watchlistDate < bar.time ∧ bar.time < day) : Int) < n ∧
    n ≤ bars.countP (fun bar => watchlistDate < bar.time ∧ bar.time ≤ day)

theorem exitBar_session (dated : Dated bars) (positive : 1 ≤ n) (placed : exitBar (futureBars bars watchlistDate) n = some bar) :
    bar.time = day ↔ Session bars watchlistDate n day := by
  have counted : ∀ test : Bar → Bool, (bars.countP (fun bar => watchlistDate < bar.time ∧ test bar = true)) =
      (futureBars bars watchlistDate).countP test := by
    intro test
    rw [futureBars,List.countP_filter]
    apply List.countP_congr
    intro bar _
    simp [and_comm]
  have position : (futureBars bars watchlistDate)[(n - 1).toNat]? = some bar := by
    rw [exitBar,item_nonneg (by omega)] at placed
    exact placed
  have ordered := future_dated dated watchlistDate
  have before : (n - 1).toNat < (futureBars bars watchlistDate).countP (fun other => other.time < day) ↔ bar.time < day := by
    refine (Rows.counted_front (ordered.imp ?_) position).trans (by simp)
    intro earlier later sorted met
    exact decide_eq_true (sorted.trans_lt (of_decide_eq_true met))
  have upTo : (n - 1).toNat < (futureBars bars watchlistDate).countP (fun other => other.time ≤ day) ↔ bar.time ≤ day := by
    refine (Rows.counted_front (ordered.imp ?_) position).trans (by simp)
    intro earlier later sorted met
    exact decide_eq_true (sorted.trans (of_decide_eq_true met))
  have lessCount := counted (fun other => decide (other.time < day))
  have mostCount := counted (fun other => decide (other.time ≤ day))
  simp only [decide_eq_true_eq] at lessCount mostCount
  rw [Session,lessCount,mostCount]
  constructor
  · rintro rfl
    have notBefore := mt before.mp (lt_irrefl _)
    have reached := upTo.mpr le_rfl
    omega
  · rintro ⟨few,enough⟩
    have reached : bar.time ≤ day := upTo.mp (by omega)
    have notBefore : ¬ bar.time < day := fun earlier => by
      have less := before.mpr earlier
      omega
    exact le_antisymm reached (not_lt.mp notBefore)

end OpenStock.Outcomes
