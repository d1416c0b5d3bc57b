import OpenStock.Foundations.Calendar
import OpenStock.Foundations.Series

namespace OpenStock.Features
open Series Calendar

/- A symbol's bars as columns, and the feature columns computed from them. -/

inductive Column where
  | opening
  | high
  | low
  | close
  | volume
  | ma20
  | ma50
  | ma100
  | ma20Slope
  | ma50Slope
  | distanceToMa20
  | distanceTo52wHigh
  | return20d
  | return60d
  | closeStrength
  | baseRange30d
  | volumeMa20
  | volumeRatio
  | atr14
  | volatility20d
  | rs20d
  | rs60d
  | rs20dVsVnindex
  | rs60dVsVnindex
deriving DecidableEq

structure Bar where
  date : Date
  opening : ℚ
  high : ℚ
  low : ℚ
  close : ℚ
  volume : ℚ

-- What canonical validation leaves of a daily bar.
structure CanonicalBar extends Bar where
  closePositive : 0 < close
  lowOpen : low ≤ opening
  lowClose : low ≤ close
  openHigh : opening ≤ high
  closeHigh : close ≤ high
  volumeNonnegative : 0 ≤ volume

structure Frame where
  index : List Date
  columns : List (Column × Series ℚ)

def Frame.get (df : Frame) (column : Column) : Series ℚ := (df.columns.lookup column).getD (fun _ => none)

def Frame.assign (df : Frame) (added : List (Column × Series ℚ)) : Frame := {df with columns := added ++ df.columns}

def frameOf (bars : List Bar) : Frame where
  index := bars.map Bar.date
  columns := [(.opening,fun row => bars[row]?.map Bar.opening),(.high,fun row => bars[row]?.map Bar.high),
    (.low,fun row => bars[row]?.map Bar.low),(.close,fun row => bars[row]?.map Bar.close),(.volume,fun row => bars[row]?.map Bar.volume)]

-- `np.log` of a positive number and `sqrt`, which no rule here looks into.
structure Elementary where
  log : ℚ → ℚ
  sqrt : ℚ → ℚ

def subtract (left right : Series ℚ) : Series ℚ := combine (fun one other => some (one - other)) left right

-- No close is zero, so a divisor of zero stands for NaN only where the source put NaN in its place.
def divide (left right : Series ℚ) : Series ℚ := combine (fun one other => if other = 0 then none else some (one / other)) left right

-- `series.where(series != 0, other=nan)`
def nonzero (series : Series ℚ) : Series ℚ := fun row => (series row).filter (fun value => decide (value ≠ 0))

/- Price. -/

def computeMa (series : Series ℚ) (window : Nat) : Series ℚ := rolling window window mean series

def slope (values : List (Option ℚ)) : Option ℚ :=
  if values.all Option.isSome then
    match values.head?.join,values.getLast?.join with
    | some first,some last => if first = 0 then none else some ((last - first) / first)
    | _,_ => none
  else none

def computeMaSlope (ma : Series ℚ) (period : Nat) : Series ℚ := rollingApply period period slope ma

def computeDistanceToMa (close ma : Series ℚ) : Series ℚ := divide (subtract close ma) (nonzero ma)

def computeDistanceTo52wHigh (close : Series ℚ) : Series ℚ :=
  let high := rolling 252 20 List.max? close
  divide (subtract close high) (nonzero high)

def computeReturn (close : Series ℚ) (period : Nat) : Series ℚ := fun row => (divide close (shift period close) row).map (fun ratio => ratio - 1)

def computeCloseStrength (close high low : Series ℚ) : Series ℚ := divide (subtract close low) (nonzero (subtract high low))

def computeBaseRange (close : Series ℚ) (period : Nat) : Series ℚ :=
  let rollingMax := rolling period period List.max? close
  let rollingMin := rolling period period List.min? close
  let rollingMean := rolling period period mean close
  divide (subtract rollingMax rollingMin) (nonzero rollingMean)

def computePriceFeatures (df : Frame) : Frame :=
  let close := df.get .close
  let ma20 := computeMa close 20
  let ma50 := computeMa close 50
  df.assign [(.ma20,ma20),(.ma50,ma50),(.ma100,computeMa close 100),(.ma20Slope,computeMaSlope ma20 5),
    (.ma50Slope,computeMaSlope ma50 5),(.distanceToMa20,computeDistanceToMa close ma20),
    (.distanceTo52wHigh,computeDistanceTo52wHigh close),(.return20d,computeReturn close 20),(.return60d,computeReturn close 60),
    (.closeStrength,computeCloseStrength close (df.get .high) (df.get .low)),(.baseRange30d,computeBaseRange close 30)]

/- Volume. -/

def computeVolumeMa (volume : Series ℚ) (window : Nat) : Series ℚ := rolling window window mean volume

def computeVolumeRatio (volume volumeMa : Series ℚ) : Series ℚ := divide volume (nonzero volumeMa)

def computeVolumeFeatures (df : Frame) : Frame :=
  let volumeMa20 := computeVolumeMa (df.get .volume) 20
  df.assign [(.volumeMa20,volumeMa20),(.volumeRatio,computeVolumeRatio (df.get .volume) volumeMa20)]

/- Volatility. -/

def absolute (series : Series ℚ) : Series ℚ := fun row => (series row).map (fun value => |value|)

-- `max(axis=1)` of the three columns passes over NaN.
def trueRange (high low close : Series ℚ) : Series ℚ := fun row =>
  let prevClose := shift 1 close
  [subtract high low row,absolute (subtract high prevClose) row,absolute (subtract low prevClose) row].reduceOption.max?

def computeAtr (high low close : Series ℚ) (period : Nat) : Series ℚ := rolling period period mean (trueRange high low close)

def logReturns (elementary : Elementary) (close : Series ℚ) : Series ℚ := fun row =>
  (divide close (shift 1 close) row).bind (fun ratio => if 0 < ratio then some (elementary.log ratio) else none)

def computeVolatility (elementary : Elementary) (close : Series ℚ) (period : Nat) : Series ℚ :=
  rolling period period (fun values => (variance values).map elementary.sqrt) (logReturns elementary close)

def computeVolatilityFeatures (elementary : Elementary) (df : Frame) : Frame :=
  df.assign [(.atr14,computeAtr (df.get .high) (df.get .low) (df.get .close) 14),
    (.volatility20d,computeVolatility elementary (df.get .close) 20)]

/- Relative strength. -/

def computeRelativeStrength (symbolClose benchmarkClose : Series ℚ) (period : Nat) : Series ℚ :=
  subtract (computeReturn symbolClose period) (computeReturn benchmarkClose period)

-- `benchmark_df["close"].reindex(df.index)`
def reindex (df benchmark : Frame) (column : Column) : Series ℚ := fun row =>
  df.index[row]?.bind (fun date => (benchmark.index.idxOf? date).bind (benchmark.get column))

def missing : Series ℚ := fun _ => none

def computeRelativeStrengthFeatures (df benchmark : Frame) (benchmarkSymbol : String) : Frame :=
  let benchClose := reindex df benchmark .close
  let rs20d := computeRelativeStrength (df.get .close) benchClose 20
  let rs60d := computeRelativeStrength (df.get .close) benchClose 60
  if benchmarkSymbol = "VNINDEX" then
    df.assign [(.rs20d,rs20d),(.rs60d,rs60d),(.rs20dVsVnindex,rs20d),(.rs60dVsVnindex,rs60d)]
  else df.assign [(.rs20d,rs20d),(.rs60d,rs60d),(.rs20dVsVnindex,missing),(.rs60dVsVnindex,missing)]

-- The empty frame is none.
def buildFeaturesForSymbol (elementary : Elementary) (df : Frame) (benchmark : Option Frame) (benchmarkSymbol : String) : Option Frame :=
  if df.index.length < 20 then none
  else
    let df := computeVolatilityFeatures elementary (computeVolumeFeatures (computePriceFeatures df))
    match benchmark with
    | some benchmark =>
      if benchmark.index = [] then some (df.assign [(.rs20d,missing),(.rs60d,missing),(.rs20dVsVnindex,missing),(.rs60dVsVnindex,missing)])
      else some (computeRelativeStrengthFeatures df benchmark benchmarkSymbol)
    | none => some (df.assign [(.rs20d,missing),(.rs60d,missing),(.rs20dVsVnindex,missing),(.rs60dVsVnindex,missing)])

end OpenStock.Features
