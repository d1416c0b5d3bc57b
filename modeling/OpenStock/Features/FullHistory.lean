import OpenStock.Features.Completeness

namespace OpenStock.Features
open Series Calendar

/- Which features a full history has. -/

variable {series : Series ℚ}

-- The statistic of positive values over a full window.
theorem full_positive {size row : Nat} (positive : ∀ k ≤ row, Positive series k) (enough : size ≤ row + 1) :
    Full size series row := by
  refine ⟨enough,fun k _ high => ?_⟩
  obtain ⟨value,some,_⟩ := positive k high
  exact Option.isSome_iff_exists.mpr ⟨value,some⟩

theorem window_positive {size minimum row : Nat} (positive : ∀ k ≤ row, Positive series k)
    (enough : size ≤ row + 1) (least : minimum ≤ size) (some : 0 < size)
    (gives : ∀ values : List ℚ, values ≠ [] → (∀ value ∈ values, 0 < value) → ∃ value, statistic values = Option.some value ∧ 0 < value) :
    Positive (rolling size minimum statistic series) row := by
  obtain ⟨values,shape,length,members⟩ := rolling_full (full_positive positive enough) least statistic
  unfold Positive
  rw [shape]
  refine gives values (fun none => by simp [none] at length; omega) ?_
  intro value member
  obtain ⟨k,_,high,same⟩ := (members value).mp member
  obtain ⟨other,found,above⟩ := positive k high
  rw [same] at found
  cases found
  exact above

variable (values : List ℚ)

theorem max_positive (some : values ≠ []) (positive : ∀ value ∈ values, 0 < value) :
    ∃ value, values.max? = Option.some value ∧ 0 < value := by
  obtain ⟨value,found⟩ := Option.ne_none_iff_exists'.mp (fun none => some (List.max?_eq_none_iff.mp none))
  exact ⟨value,found,positive value (List.max?_mem found)⟩

theorem min_positive (some : values ≠ []) (positive : ∀ value ∈ values, 0 < value) :
    ∃ value, values.min? = Option.some value ∧ 0 < value := by
  obtain ⟨value,found⟩ := Option.ne_none_iff_exists'.mp (fun none => some (List.min?_eq_none_iff.mp none))
  exact ⟨value,found,positive value (List.min?_mem found)⟩

theorem ma_positive {window row : Nat} (positive : ∀ k ≤ row, Positive series k) (enough : window ≤ row + 1)
    (some : 0 < window) : Positive (computeMa series window) row :=
  window_positive positive enough (Nat.le_refl _) some (fun _ none all => mean_positive none all)

variable {row : Nat}

theorem present_of_positive (positive : Positive series row) : (series row).isSome = true := by
  obtain ⟨value,some,_⟩ := positive
  exact Option.isSome_iff_exists.mpr ⟨value,some⟩

theorem nonzero_positive (positive : Positive series row) : nonzero series row = series row := by
  obtain ⟨value,some,above⟩ := positive
  simp [nonzero,some,above.ne']

variable {left right : Series ℚ}

theorem subtract_present (one : (left row).isSome = true) (other : (right row).isSome = true) :
    (subtract left right row).isSome = true := by
  obtain ⟨first,left⟩ := Option.isSome_iff_exists.mp one
  obtain ⟨second,right⟩ := Option.isSome_iff_exists.mp other
  simp [subtract,combine,left,right]

theorem divide_present (one : (left row).isSome = true) (other : Positive right row) :
    (divide left right row).isSome = true := by
  obtain ⟨first,left⟩ := Option.isSome_iff_exists.mp one
  obtain ⟨second,right,above⟩ := other
  simp [divide,combine,left,right,above.ne']

theorem guarded_present (one : (left row).isSome = true) (other : Positive right row) :
    (divide left (nonzero right) row).isSome = true := by
  refine divide_present one ?_
  unfold Positive
  rw [nonzero_positive other]
  exact other

theorem slope_present (positive : ∀ k, row < k + 5 → k ≤ row → Positive ma k) (enough : 5 ≤ row + 1) :
    (computeMaSlope ma 5 row).isSome = true := by
  have full : Full 5 ma row := ⟨enough,fun k low high => present_of_positive (positive k low high)⟩
  obtain ⟨values,shape,length,members⟩ := full_values full
  unfold computeMaSlope
  rw [rollingApply_full full,shape]
  match values,length with
  | first :: second :: third :: fourth :: [last],_ =>
    obtain ⟨k,low,high,same⟩ := (members first).mp (List.mem_cons_self ..)
    obtain ⟨other,found,above⟩ := positive k low high
    rw [same] at found
    cases found
    simp [slope,above.ne']

variable {close : Series ℚ}

theorem return_present {period row : Nat} (positive : ∀ k ≤ row, Positive close k) (enough : period ≤ row) :
    (computeReturn close period row).isSome = true := by
  have before : Positive (shift period close) row := by
    unfold Positive
    rw [shift_value enough]
    exact positive (row - period) (Nat.sub_le ..)
  simpa [computeReturn] using divide_present (present_of_positive (positive row (Nat.le_refl _))) before

theorem baseRange_present (positive : ∀ k ≤ row, Positive close k) (enough : 30 ≤ row + 1) :
    (computeBaseRange close 30 row).isSome = true := by
  refine guarded_present (subtract_present ?_ ?_) (ma_positive positive enough (by omega))
  · exact present_of_positive (window_positive positive enough (Nat.le_refl _) (by omega) max_positive)
  · exact present_of_positive (window_positive positive enough (Nat.le_refl _) (by omega) min_positive)

theorem high_present (positive : ∀ k ≤ row, Positive close k) (enough : 252 ≤ row + 1) :
    (computeDistanceTo52wHigh close row).isSome = true := by
  have high : Positive (rolling 252 20 List.max? close) row := window_positive positive enough (by omega) (by omega) max_positive
  exact guarded_present (subtract_present (present_of_positive (positive row (Nat.le_refl _))) (present_of_positive high)) high

theorem atr_present {high low close : Series ℚ} (tops : ∀ k ≤ row, (high k).isSome = true) (bottoms : ∀ k ≤ row, (low k).isSome = true)
    (enough : 14 ≤ row + 1) : (computeAtr high low close 14 row).isSome = true := by
  have full : Full 14 (trueRange high low close) row := by
    refine ⟨enough,fun k _ below => ?_⟩
    obtain ⟨range,some⟩ := Option.isSome_iff_exists.mp (subtract_present (tops k below) (bottoms k below))
    refine Option.isSome_iff_ne_none.mpr fun none => ?_
    simp [trueRange,some] at none
  obtain ⟨values,shape,length,_⟩ := rolling_full full (Nat.le_refl _) mean
  unfold computeAtr
  rw [shape,mean,if_neg (fun none => by simp [none] at length)]
  rfl

theorem volatility_present {elementary : Elementary} (positive : ∀ k ≤ row, Positive close k) (enough : 20 ≤ row) :
    (computeVolatility elementary close 20 row).isSome = true := by
  have full : Full 20 (logReturns elementary close) row := by
    refine ⟨by omega,fun k low below => ?_⟩
    obtain ⟨value,now,above⟩ := positive k below
    obtain ⟨other,before,positive⟩ := positive (k - 1) (by omega)
    have shifted : shift 1 close k = some other := (shift_value (by omega)).trans before
    have ratio : divide close (shift 1 close) k = some (value / other) := by simp [divide,combine,now,shifted,positive.ne']
    simp [logReturns,ratio,div_pos above positive]
  obtain ⟨values,shape,length,_⟩ := rolling_full full (Nat.le_refl _) (fun values => (variance values).map elementary.sqrt)
  unfold computeVolatility
  rw [shape]
  have some : mean values = Option.some (values.sum / values.length) := if_neg (fun none => by simp [none] at length)
  simp [variance,some,length]

/- The features a flat or idle session leaves undefined. -/

theorem guarded_iff (one : (left row).isSome = true) (other : right row = some divisor) :
    (divide left (nonzero right) row).isSome = true ↔ divisor ≠ 0 := by
  obtain ⟨first,left⟩ := Option.isSome_iff_exists.mp one
  by_cases zero : divisor = 0 <;> simp [divide,combine,nonzero,left,other,zero,Option.filter]

theorem closeStrength_iff {close high low : Series ℚ} (one : (close row).isSome = true) (tops : high row = some top)
    (bottoms : low row = some bottom) : (computeCloseStrength close high low row).isSome = true ↔ top ≠ bottom := by
  have range : subtract high low row = some (top - bottom) := by simp [subtract,combine,tops,bottoms]
  have strength := guarded_iff (subtract_present one (Option.isSome_iff_exists.mpr ⟨bottom,bottoms⟩)) range
  exact strength.trans (not_congr sub_eq_zero)

variable {volume : Series ℚ}

theorem volumeMa_present (traded : ∀ k ≤ row, (volume k).isSome = true) (enough : 20 ≤ row + 1) :
    (computeVolumeMa volume 20 row).isSome = true := by
  have full : Full 20 volume row := ⟨enough,fun k _ below => traded k below⟩
  obtain ⟨values,shape,length,_⟩ := rolling_full full (Nat.le_refl _) mean
  unfold computeVolumeMa
  rw [shape,mean,if_neg (fun none => by simp [none] at length)]
  rfl

theorem volumeRatio_iff (traded : ∀ k ≤ row, ∃ value, volume k = some value ∧ 0 ≤ value) (enough : 20 ≤ row + 1) :
    (computeVolumeRatio volume (computeVolumeMa volume 20) row).isSome = true ↔ ∃ k, row < k + 20 ∧ k ≤ row ∧ volume k ≠ some 0 := by
  have present : ∀ k ≤ row, (volume k).isSome = true := by
    intro k below
    obtain ⟨value,some,_⟩ := traded k below
    exact Option.isSome_iff_exists.mpr ⟨value,some⟩
  obtain ⟨average,ma⟩ := Option.isSome_iff_exists.mp (volumeMa_present present enough)
  obtain ⟨values,shape,length,members⟩ := rolling_full ⟨enough,fun k _ below => present k below⟩ (Nat.le_refl 20) mean
  have some : values ≠ [] := fun none => by simp [none] at length
  have nonnegative : ∀ value ∈ values, 0 ≤ value := by
    intro value member
    obtain ⟨k,_,below,same⟩ := (members value).mp member
    obtain ⟨other,found,atLeast⟩ := traded k below
    rw [same] at found
    cases found
    exact atLeast
  have zero : average = 0 ↔ ∀ value ∈ values, value = 0 := by
    rw [← mean_zero some nonnegative,← shape]
    exact ⟨fun same => same ▸ ma,fun none => Option.some.inj (ma.symm.trans none)⟩
  rw [computeVolumeRatio,guarded_iff (present row (Nat.le_refl _)) ma,Ne,zero]
  constructor
  · intro differs
    simp only [not_forall] at differs
    obtain ⟨value,member,above⟩ := differs
    obtain ⟨k,low,below,same⟩ := (members value).mp member
    exact ⟨k,low,below,fun none => above (Option.some.inj (same.symm.trans none))⟩
  · intro ⟨k,low,below,differs⟩ zeros
    obtain ⟨value,same,_⟩ := traded k below
    exact differs (same.trans (congrArg Option.some (zeros value ((members value).mpr ⟨k,low,below,same⟩))))

/- The features of a symbol. -/

def neutralFrame (elementary : Elementary) (bars : List Bar) : Frame :=
  computeVolatilityFeatures elementary (computeVolumeFeatures (computePriceFeatures (frameOf bars)))

def featuresOf (elementary : Elementary) (bars benchmark : List Bar) (benchmarkSymbol : String) : Frame :=
  computeRelativeStrengthFeatures (neutralFrame elementary bars) (frameOf benchmark) benchmarkSymbol

def columnOf (bars : List Bar) (field : Bar → ℚ) : Series ℚ := fun row => bars[row]?.map field

def benchmarkClose (bars benchmark : List Bar) : Series ℚ := reindex (frameOf bars) (frameOf benchmark) .close

-- The column behind each required field.
def seriesOf (elementary : Elementary) (bars benchmark : List Bar) : Column → Series ℚ
  | .close => columnOf bars Bar.close
  | .ma20 => computeMa (columnOf bars Bar.close) 20
  | .ma50 => computeMa (columnOf bars Bar.close) 50
  | .ma100 => computeMa (columnOf bars Bar.close) 100
  | .ma20Slope => computeMaSlope (computeMa (columnOf bars Bar.close) 20) 5
  | .ma50Slope => computeMaSlope (computeMa (columnOf bars Bar.close) 50) 5
  | .distanceToMa20 => computeDistanceToMa (columnOf bars Bar.close) (computeMa (columnOf bars Bar.close) 20)
  | .distanceTo52wHigh => computeDistanceTo52wHigh (columnOf bars Bar.close)
  | .return20d => computeReturn (columnOf bars Bar.close) 20
  | .return60d => computeReturn (columnOf bars Bar.close) 60
  | .closeStrength => computeCloseStrength (columnOf bars Bar.close) (columnOf bars Bar.high) (columnOf bars Bar.low)
  | .baseRange30d => computeBaseRange (columnOf bars Bar.close) 30
  | .volumeMa20 => computeVolumeMa (columnOf bars Bar.volume) 20
  | .volumeRatio => computeVolumeRatio (columnOf bars Bar.volume) (computeVolumeMa (columnOf bars Bar.volume) 20)
  | .atr14 => computeAtr (columnOf bars Bar.high) (columnOf bars Bar.low) (columnOf bars Bar.close) 14
  | .volatility20d => computeVolatility elementary (columnOf bars Bar.close) 20
  | .rs20d => computeRelativeStrength (columnOf bars Bar.close) (benchmarkClose bars benchmark) 20
  | .rs60d => computeRelativeStrength (columnOf bars Bar.close) (benchmarkClose bars benchmark) 60
  | _ => missing

def requiredFields : List Column := fullNeutralFields ++ [.rs20d,.rs60d]

theorem get_assign (df : Frame) (added : List (Column × Series ℚ)) (column : Column) :
    (df.assign added).get column = (added.lookup column).getD (df.get column) := by
  simp only [Frame.get,Frame.assign,List.lookup_append]
  cases added.lookup column <;> rfl

variable (df benchmark : Frame) (benchmarkSymbol : String)

-- The columns relative strength adds, and those before it.
theorem relative_get (column : Column) :
    column ≠ .rs20d → column ≠ .rs60d → column ≠ .rs20dVsVnindex → column ≠ .rs60dVsVnindex →
    (computeRelativeStrengthFeatures df benchmark benchmarkSymbol).get column = df.get column := by
  intro one two three four
  unfold computeRelativeStrengthFeatures
  dsimp only
  split <;> simp [get_assign,List.lookup_cons,beq_false_of_ne,one,two,three,four]

theorem relative_get20 : (computeRelativeStrengthFeatures df benchmark benchmarkSymbol).get .rs20d =
      computeRelativeStrength (df.get .close) (reindex df benchmark .close) 20 := by
  unfold computeRelativeStrengthFeatures
  dsimp only
  split <;> simp [get_assign]

theorem relative_get60 : (computeRelativeStrengthFeatures df benchmark benchmarkSymbol).get .rs60d =
      computeRelativeStrength (df.get .close) (reindex df benchmark .close) 60 := by
  unfold computeRelativeStrengthFeatures
  dsimp only
  split <;> exact get_assign df _ _

variable {column : Column} (elementary : Elementary)

theorem neutral_series (bars benchmark : List Bar) (neutral : column ∈ fullNeutralFields) :
    (neutralFrame elementary bars).get column = seriesOf elementary bars benchmark column := by
  simp only [neutralFrame,computeVolatilityFeatures,computeVolumeFeatures,computePriceFeatures,get_assign,frameOf]
  cases column with
  | opening | high | low | volume | rs20d | rs60d | rs20dVsVnindex | rs60dVsVnindex => exact absurd neutral (by decide)
  | _ => rfl

theorem required_series (bars benchmark : List Bar) (benchmarkSymbol : String) (required : column ∈ requiredFields) :
    (featuresOf elementary bars benchmark benchmarkSymbol).get column = seriesOf elementary bars benchmark column := by
  have close : (neutralFrame elementary bars).get .close = columnOf bars Bar.close := neutral_series elementary bars benchmark (by decide)
  obtain neutral | relative := List.mem_append.mp required
  · have own : column ≠ .rs20d ∧ column ≠ .rs60d ∧ column ≠ .rs20dVsVnindex ∧ column ≠ .rs60dVsVnindex := by
      revert neutral
      cases column <;> decide
    exact (relative_get _ _ _ column own.1 own.2.1 own.2.2.1 own.2.2.2).trans (neutral_series elementary bars benchmark neutral)
  · obtain rfl | rfl := List.mem_pair.mp relative
    · refine (relative_get20 _ _ _).trans ?_
      rw [close]
      rfl
    · refine (relative_get60 _ _ _).trans ?_
      rw [close]
      rfl

variable {f : Column → Option ℚ}

theorem lookup_values {columns : List Column} (member : column ∈ columns) :
    (columns.map (fun column => (column,f column))).lookup column = some (f column) := by
  induction columns with
  | nil => cases member
  | cons first columns later =>
    by_cases same : column = first
    · subst same
      simp
    · obtain here | rest := List.mem_cons.mp member
      · exact absurd here same
      · simp [List.lookup_cons,beq_false_of_ne same,later rest]

theorem missing_fields {columns fields : List Column} (known : ∀ field ∈ fields, field ∈ columns) :
    missingFields (columns.map (fun column => (column,f column))) fields = fields.filter (fun field => (f field).isNone) := by
  refine List.filter_congr ?_
  intro field member
  rw [lookup_values (known field member)]
  rfl

-- The bars a feature reaches back over.
def barsNeeded : Column → Nat
  | .ma20 | .volumeMa20 | .volumeRatio | .distanceToMa20 => 20
  | .ma50 => 50
  | .ma100 => 100
  | .ma20Slope => 24
  | .ma50Slope => 54
  | .distanceTo52wHigh => 252
  | .return20d | .rs20d | .volatility20d => 21
  | .return60d | .rs60d => 61
  | .baseRange30d => 30
  | .atr14 => 14
  | _ => 1

section
variable {elementary : Elementary} {bars benchmark : List CanonicalBar} {row : Nat}

def plain (bars : List CanonicalBar) : List Bar := bars.map CanonicalBar.toBar

theorem column_value (found : bars[row]? = some bar) : columnOf (plain bars) field row = some (field bar.toBar) := by
  simp [columnOf,plain,found]

theorem close_positive (inside : row < bars.length) : Positive (columnOf (plain bars) Bar.close) row :=
  ⟨_,column_value (List.getElem?_eq_getElem inside),bars[row].closePositive⟩

theorem column_present (field : Bar → ℚ) (inside : row < bars.length) : (columnOf (plain bars) field row).isSome = true :=
  Option.isSome_iff_exists.mpr ⟨_,column_value (List.getElem?_eq_getElem inside)⟩

-- The benchmark has a bar on each of the symbol's dates.
def Covered (bars benchmark : List CanonicalBar) : Prop := ∀ bar ∈ bars, ∃ other ∈ benchmark, other.date = bar.date

theorem benchmark_positive (covered : Covered bars benchmark) (inside : row < bars.length) :
    Positive (benchmarkClose (plain bars) (plain benchmark)) row := by
  have found := List.getElem?_eq_getElem inside
  obtain ⟨other,member,same⟩ := covered bars[row] (List.getElem_mem inside)
  have dated : bars[row].date ∈ (plain benchmark).map Bar.date := by
    rw [← same]
    exact List.mem_map.mpr ⟨other.toBar,List.mem_map.mpr ⟨other,member,rfl⟩,rfl⟩
  obtain ⟨place,at_⟩ := Option.isSome_iff_exists.mp (List.isSome_idxOf?.mpr dated)
  have within : place < benchmark.length := by
    have bound := (List.idxOf?_eq_some_iff.mp at_)
    simpa [plain] using bound.1
  refine ⟨benchmark[place].close,?_,benchmark[place].closePositive⟩
  have shape : benchmarkClose (plain bars) (plain benchmark) row =
      (((plain bars).map Bar.date)[row]?).bind (fun date => (((plain benchmark).map Bar.date).idxOf? date).bind (columnOf (plain benchmark) Bar.close)) := rfl
  have date : ((plain bars).map Bar.date)[row]? = some bars[row].date := by simp [plain,found]
  rw [shape,date,Option.bind_some,at_,Option.bind_some]
  exact column_value (List.getElem?_eq_getElem within)

theorem strength_present (covered : Covered bars benchmark) (inside : row < bars.length) (enough : period ≤ row) :
    (computeRelativeStrength (columnOf (plain bars) Bar.close) (benchmarkClose (plain bars) (plain benchmark)) period row).isSome = true := by
  refine subtract_present (return_present ?_ enough) (return_present ?_ enough)
  · intro k below
    exact close_positive (by omega)
  · intro k below
    exact benchmark_positive covered (by omega)

-- Every required feature but two is there once its bars are.
theorem field_present (covered : Covered bars benchmark) (inside : row < bars.length) (enough : barsNeeded field ≤ row + 1)
    (required : field ∈ requiredFields) (ratio : field ≠ .volumeRatio) (strength : field ≠ .closeStrength) :
    (seriesOf elementary (plain bars) (plain benchmark) field row).isSome = true := by
  have closes : ∀ k ≤ row, Positive (columnOf (plain bars) Bar.close) k := fun k below => close_positive (by omega)
  have ma : ∀ window, window ≤ row + 1 → 0 < window → ∀ k, row < k + 5 → k ≤ row → window + 4 ≤ row + 1 →
      Positive (computeMa (columnOf (plain bars) Bar.close) window) k :=
    fun window _ some k low below far => ma_positive (fun j under => closes j (by omega)) (by omega) some
  have here := closes row (Nat.le_refl _)
  cases field with
  | close => exact present_of_positive here
  | ma20 | ma50 | ma100 => exact present_of_positive (ma_positive closes enough (by omega))
  | ma20Slope =>
    have far : 24 ≤ row + 1 := enough
    exact slope_present (fun k low below => ma 20 (by omega) (by omega) k low below (by omega)) (by omega)
  | ma50Slope =>
    have far : 54 ≤ row + 1 := enough
    exact slope_present (fun k low below => ma 50 (by omega) (by omega) k low below (by omega)) (by omega)
  | distanceToMa20 =>
    have average := ma_positive closes enough (by decide : 0 < 20)
    exact guarded_present (subtract_present (present_of_positive here) (present_of_positive average)) average
  | distanceTo52wHigh => exact high_present closes enough
  | return20d | return60d => exact return_present closes (Nat.le_of_succ_le_succ enough)
  | baseRange30d => exact baseRange_present closes enough
  | volumeMa20 => exact volumeMa_present (fun k below => column_present Bar.volume (by omega)) enough
  | atr14 =>
    exact atr_present (fun k below => column_present Bar.high (by omega)) (fun k below => column_present Bar.low (by omega)) enough
  | volatility20d => exact volatility_present closes (Nat.le_of_succ_le_succ enough)
  | rs20d | rs60d => exact strength_present covered inside (Nat.le_of_succ_le_succ enough)
  | volumeRatio => exact absurd rfl ratio
  | closeStrength => exact absurd rfl strength
  | opening | high | low | volume | rs20dVsVnindex | rs60dVsVnindex => exact absurd required (by decide)

-- No trading in the last twenty sessions.
def Idle (bars : List CanonicalBar) : Prop := ∀ bar ∈ bars.drop (bars.length - 20), bar.volume = 0

-- One price all through the last session.
def Flat (bars : List CanonicalBar) : Prop := ∃ bar, bars.getLast? = some bar ∧ bar.high = bar.low

theorem strength_flat (some : bars ≠ []) :
    (seriesOf elementary (plain bars) (plain benchmark) .closeStrength (bars.length - 1)).isSome = true ↔ ¬ Flat bars := by
  have inside : bars.length - 1 < bars.length := Nat.sub_lt (List.length_pos_of_ne_nil some) Nat.one_pos
  have last : bars.getLast? = Option.some bars[bars.length - 1] := by
    rw [List.getLast?_eq_getElem?]
    exact List.getElem?_eq_getElem inside
  have found := List.getElem?_eq_getElem inside
  refine (closeStrength_iff (column_present Bar.close inside) (column_value found) (column_value found)).trans ?_
  unfold Flat
  rw [last]
  constructor
  · intro differs ⟨bar,same,flat⟩
    cases same
    exact differs flat
  · intro moves flat
    exact moves ⟨_,rfl,flat⟩

theorem ratio_idle (enough : 20 ≤ bars.length) :
    (seriesOf elementary (plain bars) (plain benchmark) .volumeRatio (bars.length - 1)).isSome = true ↔ ¬ Idle bars := by
  have traded : ∀ k ≤ bars.length - 1, ∃ value, columnOf (plain bars) Bar.volume k = some value ∧ 0 ≤ value := by
    intro k below
    exact ⟨_,column_value (List.getElem?_eq_getElem (by omega)),(bars[k]).volumeNonnegative⟩
  refine (volumeRatio_iff traded (by omega)).trans ?_
  unfold Idle
  simp only [not_forall]
  constructor
  · intro ⟨k,low,below,differs⟩
    have inside : k < bars.length := by omega
    refine ⟨bars[k],?_,?_⟩
    · refine List.mem_iff_getElem?.mpr ⟨k - (bars.length - 20),?_⟩
      rw [List.getElem?_drop,show bars.length - 20 + (k - (bars.length - 20)) = k by omega]
      exact List.getElem?_eq_getElem inside
    · intro zero
      exact differs ((column_value (List.getElem?_eq_getElem inside)).trans (congrArg some zero))
  · intro ⟨bar,member,above⟩
    obtain ⟨place,found⟩ := List.mem_iff_getElem?.mp member
    rw [List.getElem?_drop] at found
    obtain ⟨inside,same⟩ := List.getElem?_eq_some_iff.mp found
    refine ⟨bars.length - 20 + place,by omega,by omega,fun zero => ?_⟩
    exact above (Option.some.inj ((column_value found).symm.trans zero))

end

/- The snapshot of a full history. -/

section
variable {elementary : Elementary} {bars benchmark : List CanonicalBar} {benchmarkSymbol : String} {targetDate : Date}

theorem features_built (enough : 20 ≤ bars.length) (some : benchmark ≠ []) :
    buildFeaturesForSymbol elementary (frameOf (plain bars)) (if plain benchmark = [] then none else Option.some (frameOf (plain benchmark)))
      benchmarkSymbol = Option.some (featuresOf elementary (plain bars) (plain benchmark) benchmarkSymbol) := by
  have long : ¬ (frameOf (plain bars)).index.length < 20 := by simpa [frameOf,plain] using enough
  have given : plain benchmark ≠ [] := by simpa [plain] using some
  have indexed : (frameOf (plain benchmark)).index ≠ [] := by simpa [frameOf,plain] using some
  rw [buildFeaturesForSymbol,if_neg long,if_neg given]
  exact if_neg indexed

theorem features_index : (featuresOf elementary (plain bars) (plain benchmark) benchmarkSymbol).index = bars.map (fun bar => bar.date) := by
  unfold featuresOf computeRelativeStrengthFeatures
  dsimp only
  split <;> simp [Frame.assign,neutralFrame,computeVolatilityFeatures,computeVolumeFeatures,computePriceFeatures,frameOf,plain]

-- The last of the ordered bars is the row of the target date.
theorem last_row (ordered : (bars.map (fun bar => bar.date)).Pairwise (· < ·))
    (last : (bars.map (fun bar => bar.date)).getLast? = some targetDate) :
    lastRow (featuresOf elementary (plain bars) (plain benchmark) benchmarkSymbol) targetDate = some (bars.length - 1) := by
  have all : ∀ row ∈ List.range bars.length,
      ((bars.map (fun bar => bar.date))[row]?.any (fun date => decide (date ≤ targetDate))) = true := by
    intro row member
    have inside : row < (bars.map (fun bar => bar.date)).length := by simpa using List.mem_range.mp member
    rw [List.getElem?_eq_getElem inside,Option.any_some,decide_eq_true_eq]
    rw [List.getLast?_eq_getElem?] at last
    obtain ⟨within,same⟩ := List.getElem?_eq_some_iff.mp last
    rw [← same]
    obtain before | here := Nat.lt_or_eq_of_le (Nat.le_sub_one_of_lt inside)
    · exact (List.pairwise_iff_getElem.mp ordered row _ inside within before).le
    · exact le_of_eq (by simp only [here])
  have some : bars ≠ [] := fun none => by simp [none] at last
  unfold lastRow
  rw [features_index,List.length_map,List.filter_eq_self.mpr all,List.getLast?_eq_getElem?]
  simp [List.length_pos_of_ne_nil some]

theorem snapshot_evaluated (enough : 20 ≤ bars.length) (ordered : (bars.map (fun bar => bar.date)).Pairwise (· < ·))
    (last : (bars.map (fun bar => bar.date)).getLast? = some targetDate) (given : benchmark ≠ []) :
    snapshotCompleteness elementary (plain bars) (plain benchmark) benchmarkSymbol targetDate = some (evaluateFeatureCompleteness ⟨bars.length,true,
      (featureColumns ++ [Column.rs20d,.rs60d]).map (fun column =>
        (column,(featuresOf elementary (plain bars) (plain benchmark) benchmarkSymbol).get column (bars.length - 1)))⟩) := by
  have dated : (bars.map (fun bar => bar.date))[bars.length - 1]? = some targetDate := by
    rw [List.getLast?_eq_getElem?,List.length_map] at last
    exact last
  unfold snapshotCompleteness
  simp only [bind,features_built enough given,Option.bind_some,last_row ordered last,features_index,dated,decide_true]
  simp [plain]

end

instance (bars : List CanonicalBar) : Decidable (Idle bars) := inferInstanceAs (Decidable (∀ bar ∈ _, _))

instance (bars : List CanonicalBar) : Decidable (Flat bars) :=
  decidable_of_iff (bars.getLast?.any (fun bar => decide (bar.high = bar.low)) = true) (by
    unfold Flat
    cases bars.getLast? <;> simp)

-- What a history of fifty bars or more leaves undefined.
def undefinedFields (bars : List CanonicalBar) : List Column :=
  if bars.length < 120 then [] else (if Idle bars then [.volumeRatio] else []) ++ (if Flat bars then [.closeStrength] else [])

theorem profile_required (count : Nat) : (profileRules (profileForHistory count)).requiredBarCount ≤ max 20 count := by
  unfold profileForHistory
  split
  · simp only [profileRules]
    omega
  · split <;> simp only [profileRules] <;> omega

variable {fields : List Column}

section
variable {elementary : Elementary} {bars benchmark : List CanonicalBar}

def Undefined (elementary : Elementary) (bars benchmark : List CanonicalBar) (field : Column) : Bool :=
  (seriesOf elementary (plain bars) (plain benchmark) field (bars.length - 1)).isNone

theorem undefined_field (covered : Covered bars benchmark) (some : 20 ≤ bars.length) (enough : barsNeeded field ≤ bars.length)
    (required : field ∈ requiredFields) :
    Undefined elementary bars benchmark field = (decide (field = .volumeRatio ∧ Idle bars) || decide (field = .closeStrength ∧ Flat bars)) := by
  unfold Undefined
  by_cases ratio : field = .volumeRatio
  · subst ratio
    have idle : (seriesOf elementary (plain bars) (plain benchmark) .volumeRatio (bars.length - 1)).isSome = true ↔ ¬ Idle bars :=
      ratio_idle some
    by_cases none : Idle bars
    · have absent := fun present => idle.mp present none
      simpa [none] using absent
    · simpa [none] using idle.mpr none
  · by_cases strength : field = .closeStrength
    · subst strength
      have flat : (seriesOf elementary (plain bars) (plain benchmark) .closeStrength (bars.length - 1)).isSome = true ↔ ¬ Flat bars :=
        strength_flat (fun none => by simp [none] at some)
      by_cases none : Flat bars
      · have absent := fun present => flat.mp present none
        simpa [none] using absent
      · simpa [none] using flat.mpr none
    · have there : barsNeeded field ≤ bars.length - 1 + 1 := by omega
      have present : (seriesOf elementary (plain bars) (plain benchmark) field (bars.length - 1)).isSome = true :=
        field_present covered (Nat.sub_lt (by omega) Nat.one_pos) there required ratio strength
      simpa [ratio,strength] using present

-- The fields of a profile that are undefined, where every bar they need is there.
theorem undefined_filter (covered : Covered bars benchmark) (some : 20 ≤ bars.length) (fields : List Column)
    (enough : ∀ field ∈ fields, barsNeeded field ≤ bars.length ∧ field ∈ requiredFields) :
    fields.filter (Undefined elementary bars benchmark) =
      fields.filter (fun field => decide (field = .volumeRatio ∧ Idle bars) || decide (field = .closeStrength ∧ Flat bars)) := by
  refine List.filter_congr ?_
  intro field member
  exact undefined_field covered some (enough field member).1 (enough field member).2

theorem needs_within (within : ∀ field ∈ fields, barsNeeded field ≤ most ∧ field ∈ requiredFields)
    (enough : most ≤ bars.length) : ∀ field ∈ fields, barsNeeded field ≤ bars.length ∧ field ∈ requiredFields :=
  fun field member => ⟨(within field member).1.trans enough,(within field member).2⟩

theorem neutral_undefined (covered : Covered bars benchmark) (enough : 50 ≤ bars.length) :
    (profileRules (profileForHistory bars.length)).neutralFields.filter (Undefined elementary bars benchmark) = undefinedFields bars := by
  have fifty : ∀ field ∈ minimalNeutralFields, barsNeeded field ≤ 50 ∧ field ∈ requiredFields := by decide
  have most : ∀ field ∈ standardNeutralFields, barsNeeded field ≤ 120 ∧ field ∈ requiredFields := by decide
  have all : ∀ field ∈ fullNeutralFields, barsNeeded field ≤ 252 ∧ field ∈ requiredFields := by decide
  unfold undefinedFields profileForHistory
  split
  next full =>
    rw [if_neg (by omega)]
    refine (undefined_filter covered (by omega) fullNeutralFields (needs_within all full)).trans ?_
    by_cases idle : Idle bars <;> by_cases flat : Flat bars <;>
      simp [idle,flat,fullNeutralFields,standardNeutralFields,minimalNeutralFields]
  next =>
    split
    next standard =>
      rw [if_neg (by omega)]
      refine (undefined_filter covered (by omega) standardNeutralFields (needs_within most standard)).trans ?_
      by_cases idle : Idle bars <;> by_cases flat : Flat bars <;>
        simp [idle,flat,standardNeutralFields,minimalNeutralFields]
    next =>
      rw [if_pos (by omega)]
      refine (undefined_filter covered (by omega) minimalNeutralFields (needs_within fifty enough)).trans ?_
      simp [minimalNeutralFields]

theorem strength_defined (covered : Covered bars benchmark) (enough : 50 ≤ bars.length) :
    (profileRules (profileForHistory bars.length)).relativeStrengthFields.filter (Undefined elementary bars benchmark) = [] := by
  have one : ∀ field ∈ [Column.rs20d], barsNeeded field ≤ 50 ∧ field ∈ requiredFields := by decide
  have both : ∀ field ∈ [Column.rs20d,.rs60d], barsNeeded field ≤ 120 ∧ field ∈ requiredFields := by decide
  unfold profileForHistory
  split
  next full => exact (undefined_filter covered (by omega) _ (needs_within both (by omega))).trans (by simp)
  next =>
    split
    next standard => exact (undefined_filter covered (by omega) _ (needs_within both standard)).trans (by simp)
    next => exact (undefined_filter covered (by omega) _ (needs_within one enough)).trans (by simp)

-- The missing fields of an evaluated snapshot are the undefined ones of its profile.
theorem missing_undefined (benchmarkSymbol : String) {fields : List Column} (known : ∀ field ∈ fields, field ∈ requiredFields) :
    missingFields ((featureColumns ++ [Column.rs20d,.rs60d]).map (fun column =>
      (column,(featuresOf elementary (plain bars) (plain benchmark) benchmarkSymbol).get column (bars.length - 1)))) fields =
      fields.filter (Undefined elementary bars benchmark) := by
  have columns : ∀ field ∈ requiredFields, field ∈ featureColumns ++ [Column.rs20d,.rs60d] := by decide
  refine (missing_fields (fun field member => columns field (known field member))).trans (List.filter_congr ?_)
  intro field member
  rw [required_series elementary (plain bars) (plain benchmark) benchmarkSymbol (known field member)]
  rfl

theorem rule_known (profile : FeatureCompletenessProfile) : (∀ field ∈ (profileRules profile).neutralFields, field ∈ requiredFields) ∧
    ∀ field ∈ (profileRules profile).relativeStrengthFields, field ∈ requiredFields := by
  cases profile <;> decide

theorem covering_some (covered : Covered bars benchmark) (some : bars ≠ []) : benchmark ≠ [] := by
  obtain ⟨bar,member⟩ := List.exists_mem_of_ne_nil bars some
  obtain ⟨other,within,_⟩ := covered bar member
  exact List.ne_nil_of_mem within

end

section
variable {elementary : Elementary} {bars benchmark : List CanonicalBar} {benchmarkSymbol : String} {targetDate : Date}

theorem neutral_status (enough : required ≤ count) : neutralStatus count required fields none = .complete ↔ fields = [] := by
  unfold neutralStatus
  rw [if_neg (Nat.not_lt.mpr enough)]
  by_cases none : fields = [] <;> simp [none]

-- The evaluation of fifty bars or more names the undefined fields and no others.
theorem snapshot_missing (elementary : Elementary) (benchmarkSymbol : String) (enough : 50 ≤ bars.length) (ordered : (bars.map (fun bar => bar.date)).Pairwise (· < ·))
    (last : (bars.map (fun bar => bar.date)).getLast? = some targetDate) (covered : Covered bars benchmark) :
    ∃ completeness, snapshotCompleteness elementary (plain bars) (plain benchmark) benchmarkSymbol targetDate = some completeness ∧
      completeness.profile = profileForHistory bars.length ∧ completeness.requiredBarCount ≤ bars.length ∧
      completeness.missingNeutralFields = undefinedFields bars ∧ completeness.missingRelativeStrengthFields = [] ∧
      (completeness.neutralStatus = .complete ↔ undefinedFields bars = []) ∧ completeness.relativeStrengthStatus = .complete := by
  have given := covering_some covered (fun none => by simp [none] at enough)
  have known := rule_known (profileForHistory bars.length)
  have neutral := (@missing_undefined elementary bars benchmark benchmarkSymbol _ known.1).trans (neutral_undefined covered enough)
  have strength := (@missing_undefined elementary bars benchmark benchmarkSymbol _ known.2).trans (strength_defined covered enough)
  have required : (profileRules (profileForHistory bars.length)).requiredBarCount ≤ bars.length :=
    (profile_required bars.length).trans (by omega)
  refine ⟨_,snapshot_evaluated (by omega) ordered last given,rfl,required,neutral,strength,?_,?_⟩
  · simp only [evaluateFeatureCompleteness,if_true,neutral]
    exact neutral_status required
  · simp only [evaluateFeatureCompleteness,strength]
    rfl

-- Fifty bars and a covering benchmark leave nothing missing but what idle and flat sessions leave undefined.
theorem features_complete (elementary : Elementary) (bars benchmark : List CanonicalBar) (benchmarkSymbol : String) (targetDate : Date)
    (enough : 50 ≤ bars.length) (ordered : (bars.map (fun bar => bar.date)).Pairwise (· < ·))
    (last : (bars.map (fun bar => bar.date)).getLast? = some targetDate) (covered : Covered bars benchmark) :
    ∃ completeness, snapshotCompleteness elementary (plain bars) (plain benchmark) benchmarkSymbol targetDate = some completeness ∧
      completeness.requiredBarCount ≤ bars.length ∧ completeness.missingNeutralFields = undefinedFields bars ∧
      (completeness.neutralStatus = .complete ↔ undefinedFields bars = []) ∧ completeness.missingRelativeStrengthFields = [] ∧
      completeness.relativeStrengthStatus = .complete := by
  obtain ⟨completeness,evaluated,_,required,neutral,strength,status,relative⟩ :=
    snapshot_missing elementary benchmarkSymbol enough ordered last covered
  exact ⟨completeness,evaluated,required,neutral,status,strength,relative⟩

end

/- Sessions on the first days of the months of a year. -/

theorem month_days (month : Nat) : 28 ≤ daysInMonth 2024 month := by
  unfold daysInMonth
  split <;> decide

def sessionDate (k : Fin 336) : Date :=
  ⟨2024,k.val / 28 + 1,k.val % 28 + 1,in_2024,by omega,by have days := month_days (k.val / 28 + 1); omega⟩

theorem sessionDate_lt (before : i < j) : sessionDate i < sessionDate j := by
  have order : i.val < j.val := before
  rw [stamp_lt]
  simp only [Date.stamp,sessionDate]
  omega

-- Bars with one price, but for the high.
def session (high : ℚ) (above : 1 ≤ high) (k : Fin 336) : CanonicalBar where
  date := sessionDate k
  opening := 1
  high := high
  low := 1
  close := 1
  volume := 1
  closePositive := by norm_num
  lowOpen := le_refl _
  lowClose := le_refl _
  openHigh := above
  closeHigh := above
  volumeNonnegative := by norm_num

def sessions (high : ℚ) (above : 1 ≤ high) (count : Nat) (small : count ≤ 336) : List CanonicalBar :=
  (List.finRange count).map (fun k => session high above (k.castLE small))

theorem sessions_ordered (high : ℚ) (above : 1 ≤ high) (count : Nat) (small : count ≤ 336) :
    ((sessions high above count small).map (fun bar => bar.date)).Pairwise (· < ·) := by
  unfold sessions
  rw [List.map_map,List.pairwise_map]
  refine (List.pairwise_lt_finRange count).imp ?_
  intro i j before
  exact sessionDate_lt before

theorem sessions_covered (bars : List CanonicalBar) : Covered bars bars := fun bar member => ⟨bar,member,rfl⟩

theorem two_above : (1 : ℚ) ≤ 2 := by norm_num

theorem fifty_small : 50 ≤ 336 := by decide

theorem features_complete_sample : ∃ completeness,
    snapshotCompleteness ⟨id,id⟩ (plain (sessions 2 two_above 50 fifty_small)) (plain (sessions 2 two_above 50 fifty_small)) "VNINDEX"
      (sessionDate 49) = some completeness ∧ completeness.requiredBarCount ≤ (sessions 2 two_above 50 fifty_small).length ∧
    completeness.missingNeutralFields = undefinedFields (sessions 2 two_above 50 fifty_small) ∧
    (completeness.neutralStatus = .complete ↔ undefinedFields (sessions 2 two_above 50 fifty_small) = []) ∧
    completeness.missingRelativeStrengthFields = [] ∧ completeness.relativeStrengthStatus = .complete :=
  features_complete ⟨id,id⟩ (sessions 2 two_above 50 fifty_small) (sessions 2 two_above 50 fifty_small) "VNINDEX" (sessionDate 49)
    (by simp [sessions]) (sessions_ordered 2 two_above 50 fifty_small) (by rfl) (sessions_covered _)

-- Enough valid history is complete history.
def CompleteWhenLong : Prop :=
  ∀ (elementary : Elementary) (bars benchmark : List CanonicalBar) (benchmarkSymbol : String) (targetDate : Date),
    20 ≤ bars.length → (bars.map (fun bar => bar.date)).Pairwise (· < ·) → (bars.map (fun bar => bar.date)).getLast? = some targetDate →
    Covered bars benchmark → ∀ completeness,
      snapshotCompleteness elementary (plain bars) (plain benchmark) benchmarkSymbol targetDate = some completeness →
      completeness.requiredBarCount ≤ bars.length →
      completeness.neutralStatus = .complete ∧ completeness.relativeStrengthStatus = .complete ∧ completeness.missingNeutralFields = [] ∧
        completeness.missingRelativeStrengthFields = []

-- A last session at one price has no close strength.
theorem flat_session_incomplete : ¬ CompleteWhenLong := by
  intro claim
  have flat : Flat (sessions 1 le_rfl 120 (by norm_num)) := by
    unfold Flat sessions
    rw [List.getLast?_map]
    exact ⟨session 1 le_rfl 119,rfl,rfl⟩
  have last : ((sessions 1 le_rfl 120 (by norm_num)).map (fun bar => bar.date)).getLast? = some (sessionDate 119) := by
    unfold sessions
    rw [List.getLast?_map,List.getLast?_map]
    rfl
  have long : (sessions 1 le_rfl 120 (by norm_num)).length = 120 := by simp [sessions]
  have ordered := sessions_ordered 1 le_rfl 120 (by norm_num)
  have covered := sessions_covered (sessions 1 le_rfl 120 (by norm_num))
  obtain ⟨completeness,evaluated,_,required,neutral,_⟩ :=
    snapshot_missing ⟨id,id⟩ "VNINDEX" (by omega) ordered last covered
  have none := (claim ⟨id,id⟩ _ _ "VNINDEX" (sessionDate 119) (by omega) ordered last covered completeness evaluated required).2.2.1
  rw [neutral,undefinedFields,if_neg (by omega),if_pos flat] at none
  simp at none

end OpenStock.Features
