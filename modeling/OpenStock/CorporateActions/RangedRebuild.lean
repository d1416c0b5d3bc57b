import OpenStock.Foundations.Rebuild
import OpenStock.CorporateActions.PendingRanges

namespace OpenStock.CorporateActions
open Text Calendar Outcomes Queue Rebuild

/- The stored series of a symbol and the series a build without bounds derives. -/

def normalized (symbol : Text) : Text := upper (strip symbol)

namespace AdjustedWarehouse

def series (warehouse : AdjustedWarehouse) (symbol : Text) : List AdjustedBar :=
  warehouse.adjustedOhlcv.filter (replacedBar symbol adjustedPriceVersion unbounded)

def derived [Platform] (warehouse : AdjustedWarehouse) (symbol : Text) : List AdjustedBar :=
  (warehouse.research.canonicalOhlcv.filter (unadjustedBar symbol)).map
    (adjustedBar (currentFactors warehouse.factors symbol) symbol adjustedPriceVersion)

def ranges (warehouse : AdjustedWarehouse) : List AffectedRange := warehouse.research.actions.affectedRanges

-- A signal of the symbol was resolved.
def RebuiltBefore (warehouse : AdjustedWarehouse) (symbol : Text) : Prop :=
  ∃ range ∈ warehouse.ranges, normalized range.symbol = symbol ∧ range.resolvedAt.isSome = true

-- The current factors a raw bar of the day is to be multiplied by.
def factorsAfter (warehouse : AdjustedWarehouse) (symbol : Text) (day : Date) : List StoredFactor :=
  warehouse.factors.filter (fun factor => factor.symbol = symbol && factor.canonicalStatus = .current && day < factor.effectiveDate)

def priceProduct (warehouse : AdjustedWarehouse) (symbol : Text) (day : Date) : ℚ :=
  ((warehouse.factorsAfter symbol day).map StoredFactor.priceMultiplier).prod

def volumeProduct (warehouse : AdjustedWarehouse) (symbol : Text) (day : Date) : ℚ :=
  ((warehouse.factorsAfter symbol day).map StoredFactor.volumeMultiplier).prod

end AdjustedWarehouse

-- The row is the raw bar with its prices and volume times the products.
structure Multiplied (warehouse : AdjustedWarehouse) (symbol : Text) (bar : CanonicalBar) (row : AdjustedBar) : Prop where
  raw : bar ∈ warehouse.research.canonicalOhlcv ∧ unadjustedBar symbol bar = true
  time : row.time = bar.time
  open_ : row.open_ = bar.open_.map (· * warehouse.priceProduct symbol bar.time.date)
  high : row.high = bar.high.map (· * warehouse.priceProduct symbol bar.time.date)
  low : row.low = bar.low.map (· * warehouse.priceProduct symbol bar.time.date)
  close : row.close = bar.close.map (· * warehouse.priceProduct symbol bar.time.date)
  volume : row.volume = bar.volume.map (· * warehouse.volumeProduct symbol bar.time.date)

theorem replaced_bounds (symbol version : Text) (bounds : Bounds) (row : AdjustedBar) :
    replacedBar symbol version bounds row = (replacedBar symbol version unbounded row && bounds.contains row.time.date) := by
  simp [replacedBar,unbounded,Bounds.contains]

/- Factors and signals. -/

variable {warehouse : AdjustedWarehouse}

theorem factorOf_reads (made : factorOf row = .ok factor) :
    factor.symbol = upper row.symbol ∧ factor.version = adjustmentFactorVersion := by
  unfold factorOf at made
  split at made
  · cases made
  · obtain ⟨⟨adjustmentType,priceMultiplier⟩,_,returns⟩ := bind_ok made
    cases returns
    exact ⟨rfl,rfl⟩

theorem priorFactor_some (found : priorFactor factors actionId = some earlier) :
    earlier ∈ factors ∧ earlier.actionId = actionId ∧ earlier.canonicalStatus = .current := by
  have selected := Rows.firstBy_mem found
  simpa using selected

-- Superseding a factor of another symbol leaves the symbol's current factors.
theorem supersede_others (keyed : Rows.Distinct StoredFactor.factorId factors) (present : earlier ∈ factors)
    (other : earlier.symbol ≠ symbol) (replacement : Text) :
    currentFactors (supersedeFactor earlier.factorId replacement factors) symbol = currentFactors factors symbol := by
  unfold currentFactors supersedeFactor
  rw [Rows.filter_updateWhere]
  intro row inside selected
  have same : row = earlier := Rows.same_row keyed inside present (of_decide_eq_true selected)
  simp [same,other]

-- No raw bar of the symbol is dated before the signal.
def Leading (warehouse : AdjustedWarehouse) (signal : AffectedRange) : Prop :=
  ∀ bar ∈ warehouse.research.canonicalOhlcv, unadjustedBar (normalized signal.symbol) bar = true →
    signal.affectedFromDate ≤ bar.time.date

-- The revision's factor was derived before.
def Known (warehouse : AdjustedWarehouse) (signal : AffectedRange) : Prop :=
  (existingFactor warehouse.factors signal.revisionId adjustmentFactorVersion).isSome = true

-- The factor that enters and the one it supersedes are of no other symbol that was rebuilt.
def Own (warehouse : AdjustedWarehouse) (signal : AffectedRange) : Prop :=
  ∀ row ∈ warehouse.research.actions.corporateActions, row.revisionId = signal.revisionId →
    ∀ symbol, symbol ≠ normalized signal.symbol → warehouse.RebuiltBefore symbol →
      upper row.symbol ≠ symbol ∧ ∀ factor ∈ warehouse.factors, factor.actionId = row.actionId →
        factor.canonicalStatus = .current → factor.symbol ≠ symbol

-- The signals whose window holds every bar that their factor changes.
structure Harmless (warehouse : AdjustedWarehouse) (signal : AffectedRange) : Prop where
  window : Leading warehouse signal ∨ (Known warehouse signal ∧ warehouse.RebuiltBefore (normalized signal.symbol))
  own : Known warehouse signal ∨ Own warehouse signal

-- A signal as the table holds it, but for its resolution.
def Listed (ranges : List AffectedRange) (signal : AffectedRange) : Prop :=
  ∃ range ∈ ranges, range.signalId = signal.signalId ∧ range.symbol = signal.symbol

theorem listed_resolved {ranges : List AffectedRange} (listed : Listed ranges signal) :
    Listed (resolveRange signalId resolutionRef now ranges) signal := by
  obtain ⟨range,inside,identified,named⟩ := listed
  refine ⟨_,List.mem_map_of_mem inside,?_,?_⟩
  · split <;> exact identified
  · split <;> exact named

-- What the symbols rebuilt are once a signal is resolved.
theorem rebuilt_resolved {before after : AdjustedWarehouse}
    (keyed : Rows.Distinct AffectedRange.signalId before.ranges) (listed : Listed before.ranges signal)
    (resolved : after.ranges = resolveRange signal.signalId resolutionRef now before.ranges) (symbol : Text) :
    after.RebuiltBefore symbol ↔ symbol = normalized signal.symbol ∨ before.RebuiltBefore symbol := by
  obtain ⟨own,present,identified,named⟩ := listed
  unfold AdjustedWarehouse.RebuiltBefore
  rw [resolved]
  constructor
  · rintro ⟨_,inside,same,settled⟩
    obtain ⟨range,member,rfl⟩ := List.mem_map.mp inside
    by_cases selected : range.signalId = signal.signalId
    · have equal := Rows.same_row keyed member present (selected.trans identified.symm)
      simp only [selected,decide_true,if_true] at same
      rw [equal,named] at same
      exact .inl same.symm
    · simp only [selected,decide_false,Bool.false_eq_true,if_false] at same settled
      exact .inr ⟨range,member,same,settled⟩
  · rintro (rfl | ⟨range,member,same,settled⟩)
    · refine ⟨_,List.mem_map_of_mem present,?_,?_⟩
      · simp [identified,named]
      · simp [identified]
    · refine ⟨_,List.mem_map_of_mem member,?_,?_⟩
      · split <;> exact same
      · split
        · rfl
        · exact settled

def AdjustedWarehouse.revised (warehouse : AdjustedWarehouse) (rows : List CorporateAction) (signal : AffectedRange) :
    AdjustedWarehouse :=
  {warehouse with research:={warehouse.research with actions:={warehouse.research.actions with
    corporateActions:=rows,affectedRanges:=warehouse.ranges ++ [signal]}}}

-- No action, no factor and no adjusted bar yet.
def adjustmentStart (outcomes : OutcomeTables) (canonicalOhlcv : List CanonicalBar) : AdjustedWarehouse :=
  ⟨⟨⟨[],[],[],[],[],[]⟩,outcomes,canonicalOhlcv⟩,[],[]⟩

theorem mem_pending (inside : signal ∈ warehouse.pending limit) : signal ∈ warehouse.ranges := by
  have taken := List.mem_of_mem_take inside
  rw [List.mem_insertionSort] at taken
  exact (List.mem_filter.mp taken).1

theorem revised_rebuilt (unresolved : signal.resolvedAt = none) (rows : List CorporateAction)
    (symbol : Text) : (warehouse.revised rows signal).RebuiltBefore symbol ↔ warehouse.RebuiltBefore symbol := by
  constructor
  · rintro ⟨range,inside,same,settled⟩
    rcases List.mem_append.mp inside with earlier | latest
    · exact ⟨range,earlier,same,settled⟩
    · rw [List.mem_singleton.mp latest,unresolved] at settled
      cases settled
  · rintro ⟨range,inside,same,settled⟩
    exact ⟨range,List.mem_append_left _ inside,same,settled⟩

/- One build. -/

section
variable [Platform] {symbol requested : Text} {bounds : Bounds}

theorem adjustedBar_replaced (factors : List StoredFactor) (symbol version : Text) (bar : CanonicalBar) :
    replacedBar symbol version unbounded (adjustedBar factors symbol version bar) = true := by
  simp [replacedBar,adjustedBar,unbounded,Bounds.contains]

variable {row : AdjustedBar}

theorem mem_derived : row ∈ warehouse.derived symbol ↔
    ∃ bar ∈ warehouse.research.canonicalOhlcv, unadjustedBar symbol bar = true ∧
      adjustedBar (currentFactors warehouse.factors symbol) symbol adjustedPriceVersion bar = row := by
  simp [AdjustedWarehouse.derived,and_assoc]

theorem mem_build : row ∈ (buildAdjustedOhlcv requested bounds adjustedPriceVersion warehouse).1.adjustedOhlcv ↔
      (row ∈ warehouse.adjustedOhlcv ∧ replacedBar (normalized requested) adjustedPriceVersion bounds row = false) ∨
        (row ∈ warehouse.derived (normalized requested) ∧ bounds.contains row.time.date = true) := by
  have written : (∃ bar, ((bar ∈ warehouse.research.canonicalOhlcv ∧ unadjustedBar (normalized requested) bar = true ∧
        bounds.contains bar.time.date = true) ∧
      adjustedBar (currentFactors warehouse.factors (normalized requested)) (normalized requested) adjustedPriceVersion bar = row)) ↔
      row ∈ warehouse.derived (normalized requested) ∧ bounds.contains row.time.date = true := by
    rw [mem_derived]
    constructor
    · rintro ⟨bar,⟨raw,unadjusted,inside⟩,rfl⟩
      exact ⟨⟨bar,raw,unadjusted,rfl⟩,inside⟩
    · rintro ⟨⟨bar,raw,unadjusted,rfl⟩,inside⟩
      exact ⟨bar,⟨raw,unadjusted,inside⟩,rfl⟩
  rw [← written]
  simp only [buildAdjustedOhlcv,normalized,List.mem_append,List.mem_filter,List.mem_map,List.mem_insertionSort,
    Bool.and_eq_true,Bool.not_eq_true']

-- The series of the symbol is rebuilt inside the bounds, every other is left.
theorem build_series : Same ((buildAdjustedOhlcv requested bounds adjustedPriceVersion warehouse).1.series (normalized requested))
    (ranged (fun row => bounds.contains row.time.date) (warehouse.derived (normalized requested))
      (warehouse.series (normalized requested))) := by
  intro row
  rw [mem_ranged,AdjustedWarehouse.series,AdjustedWarehouse.series,List.mem_filter,List.mem_filter,mem_build,replaced_bounds]
  constructor
  · rintro ⟨⟨stored,left⟩ | ⟨made,inside⟩,own⟩
    · exact .inl ⟨by simpa [own] using left,stored,own⟩
    · exact .inr ⟨inside,made⟩
  · rintro (⟨outside,stored,own⟩ | ⟨inside,made⟩)
    · exact ⟨.inl ⟨stored,by simp [outside]⟩,own⟩
    · obtain ⟨bar,_,_,rfl⟩ := mem_derived.mp made
      exact ⟨.inr ⟨made,inside⟩,adjustedBar_replaced _ _ _ bar⟩

theorem build_others (other : symbol ≠ normalized requested) :
    Same ((buildAdjustedOhlcv requested bounds adjustedPriceVersion warehouse).1.series symbol) (warehouse.series symbol) := by
  intro row
  rw [AdjustedWarehouse.series,AdjustedWarehouse.series,List.mem_filter,List.mem_filter,mem_build]
  apply and_congr_left
  intro own
  have named : row.symbol = symbol := by
    simp only [replacedBar,Bool.and_eq_true,decide_eq_true_eq] at own
    exact own.1.1.1
  constructor
  · rintro (⟨stored,_⟩ | ⟨made,_⟩)
    · exact stored
    · obtain ⟨bar,_,_,rfl⟩ := mem_derived.mp made
      exact absurd named.symm other
  · intro stored
    exact .inl ⟨stored,by simp [replacedBar,named,other]⟩

-- A build without bounds leaves the derived series.
theorem build_unbounded (warehouse : AdjustedWarehouse) (requested : Text) :
    Same ((buildAdjustedOhlcv requested unbounded adjustedPriceVersion warehouse).1.series (normalized requested))
      (warehouse.derived (normalized requested)) := by
  apply same_trans build_series
  apply ranged_covering <;> intro row _ <;> rfl

-- A derived row multiplies its raw bar by the factors effective after its day.
theorem derived_multiplied (made : row ∈ warehouse.derived symbol) : ∃ bar, Multiplied warehouse symbol bar row := by
  obtain ⟨bar,raw,unadjusted,rfl⟩ := mem_derived.mp made
  have chain : (applicable (currentFactors warehouse.factors symbol) bar.time.date).Perm
      (warehouse.factorsAfter symbol bar.time.date) := by
    refine ((List.perm_insertionSort factorBefore _).filter _).trans ?_
    rw [List.filter_filter]
    apply List.Perm.of_eq
    unfold AdjustedWarehouse.factorsAfter
    congr 1
    funext factor
    rw [Bool.and_comm]
  have prices : ((applicable (currentFactors warehouse.factors symbol) bar.time.date).map StoredFactor.priceMultiplier).prod =
      warehouse.priceProduct symbol bar.time.date := (chain.map _).prod_eq
  have volumes : ((applicable (currentFactors warehouse.factors symbol) bar.time.date).map StoredFactor.volumeMultiplier).prod =
      warehouse.volumeProduct symbol bar.time.date := (chain.map _).prod_eq
  exact ⟨bar,{
    raw:=⟨raw,unadjusted⟩
    time:=rfl
    open_:=by rw [← prices]; rfl
    high:=by rw [← prices]; rfl
    low:=by rw [← prices]; rfl
    close:=by rw [← prices]; rfl
    volume:=by rw [← volumes]; rfl}⟩

/- What holds between the signals. -/

structure Tracked (warehouse : AdjustedWarehouse) : Prop where
  keyed : Rows.Distinct AffectedRange.signalId warehouse.ranges
  factored : Rows.Distinct StoredFactor.factorId warehouse.factors
  rebuilt : ∀ symbol, warehouse.RebuiltBefore symbol → Same (warehouse.series symbol) (warehouse.derived symbol)
  untouched : ∀ symbol, ¬ warehouse.RebuiltBefore symbol → warehouse.series symbol = []

theorem start_tracked (outcomes : OutcomeTables) (canonicalOhlcv : List CanonicalBar) :
    Tracked (adjustmentStart outcomes canonicalOhlcv) where
  keyed := List.nodup_nil
  factored := List.nodup_nil
  rebuilt := by
    rintro symbol ⟨range,inside,_⟩
    cases inside
  untouched := fun _ _ => rfl

theorem revised_tracked (tracked : Tracked warehouse)
    (fresh : ∀ range ∈ warehouse.ranges, range.signalId ≠ signal.signalId) (unresolved : signal.resolvedAt = none)
    (rows : List CorporateAction) : Tracked (warehouse.revised rows signal) where
  keyed := Rows.append_distinct tracked.keyed fresh
  factored := tracked.factored
  rebuilt := fun symbol now => tracked.rebuilt symbol ((revised_rebuilt unresolved rows symbol).mp now)
  untouched := fun symbol never =>
    tracked.untouched symbol (fun before => never ((revised_rebuilt unresolved rows symbol).mpr before))

-- Where no raw bar comes before the signal its window holds the whole series.
theorem leading_covers (leading : Leading warehouse signal) (factors : List StoredFactor)
    (made : row ∈ ({warehouse with factors:=factors} : AdjustedWarehouse).derived (normalized signal.symbol)) :
    (⟨some signal.affectedFromDate,none⟩ : Bounds).contains row.time.date = true := by
  obtain ⟨bar,raw,unadjusted,rfl⟩ := mem_derived.mp made
  simp [Bounds.contains,adjustedBar,leading bar raw unadjusted]

/- Persisting a factor. -/

variable [DecimalText] {factors after : List StoredFactor}

-- A revision that has a factor changes none; else one factor enters and the
-- action's prior one is superseded.
theorem persist_cases (keyed : Rows.Distinct StoredFactor.factorId factors)
    (ran : persistAdjustmentFactor now actionId revisionId factor factors = .ok (after,ref)) :
    ((existingFactor factors revisionId factor.version).isSome = true ∧ after = factors) ∨
    (existingFactor factors revisionId factor.version = none ∧ Rows.Distinct StoredFactor.factorId after ∧
      ∀ symbol, factor.symbol ≠ symbol →
        (∀ other ∈ factors, other.actionId = actionId → other.canonicalStatus = .current → other.symbol ≠ symbol) →
        currentFactors after symbol = currentFactors factors symbol) := by
  unfold persistAdjustmentFactor at ran
  split at ran
  · rename_i existing found
    split at ran
    · cases ran
    · cases ran
      exact .inl ⟨by rw [found]; rfl,rfl⟩
  · rename_i absent
    simp only at ran
    split at ran
    · cases ran
    · rename_i unused
      refine .inr ⟨absent,?_⟩
      have inserted : Rows.Distinct StoredFactor.factorId (factors ++
          [storedFactor now actionId revisionId factor ((priorFactor factors actionId).map StoredFactor.factorId)]) := by
        apply Rows.append_distinct keyed
        intro other inside same
        exact unused (List.any_eq_true.mpr ⟨other,inside,decide_eq_true same⟩)
      have appended : ∀ symbol, factor.symbol ≠ symbol → currentFactors (factors ++
          [storedFactor now actionId revisionId factor ((priorFactor factors actionId).map StoredFactor.factorId)]) symbol =
            currentFactors factors symbol := by
        intro symbol differs
        simp [currentFactors,storedFactor,differs]
      cases prior : priorFactor factors actionId with
      | none =>
        rw [prior] at ran inserted appended
        cases ran
        exact ⟨inserted,fun symbol differs _ => appended symbol differs⟩
      | some earlier =>
        rw [prior] at ran inserted appended
        cases ran
        obtain ⟨present,acts,standing⟩ := priorFactor_some prior
        refine ⟨Rows.updateWhere_distinct (fun _ => rfl) inserted,?_⟩
        intro symbol differs others
        refine Eq.trans ?_ (appended symbol differs)
        exact supersede_others inserted (List.mem_append_left _ present) (others earlier present acts standing) _

theorem derive_cases (keyed : Rows.Distinct StoredFactor.factorId factors)
    (ran : deriveAndPersistFactor now revisionId rows factors = .ok (after,ref)) :
    ((existingFactor factors revisionId adjustmentFactorVersion).isSome = true ∧ after = factors) ∨
    (existingFactor factors revisionId adjustmentFactorVersion = none ∧ Rows.Distinct StoredFactor.factorId after ∧
      ∃ identity ∈ rows, ∃ row ∈ rows, identity.revisionId = revisionId ∧ row.revisionId = revisionId ∧
        ∀ symbol, upper row.symbol ≠ symbol →
          (∀ other ∈ factors, other.actionId = identity.actionId → other.canonicalStatus = .current → other.symbol ≠ symbol) →
          currentFactors after symbol = currentFactors factors symbol) := by
  unfold deriveAndPersistFactor at ran
  split at ran
  · cases ran
  · rename_i identity found
    obtain ⟨factor,derived,persisted⟩ := bind_ok ran
    unfold deriveFactorForRevision at derived
    split at derived
    · cases derived
    · rename_i row selected
      obtain ⟨named,versioned⟩ := factorOf_reads derived
      have ofRevision : row.revisionId = revisionId := by
        have met := List.find?_some selected
        simp only [Bool.and_eq_true,decide_eq_true_eq] at met
        exact met.1
      rw [← versioned]
      rcases persist_cases keyed persisted with known | ⟨absent,distinct,others⟩
      · exact .inl known
      · refine .inr ⟨absent,distinct,identity,List.mem_of_find?_eq_some found,row,List.mem_of_find?_eq_some selected,?_,
          ofRevision,?_⟩
        · have met := List.find?_some found
          exact of_decide_eq_true met
        · rw [← named]
          exact others

/- Signals one after the other. -/

-- Each signal that is resolved is harmless in the state its turn finds.
def Steady (now : Int) : AdjustedWarehouse → List AffectedRange → Prop
  | _,[] => True
  | warehouse,signal :: rest => ∀ after result, rebuildSignal now signal warehouse = .ok (after,result) →
      Harmless warehouse signal ∧ Steady now after rest

theorem rebuildSignal_ok {before after : AdjustedWarehouse} (ran : rebuildSignal now signal before = .ok (after,result)) :
    ∃ factors ref, deriveAndPersistFactor now signal.revisionId before.research.actions.corporateActions before.factors =
        .ok (factors,ref) ∧ after.factors = factors ∧ after.research.canonicalOhlcv = before.research.canonicalOhlcv ∧
      after.adjustedOhlcv = (buildAdjustedOhlcv signal.symbol ⟨some signal.affectedFromDate,signal.affectedToDate⟩
        adjustedPriceVersion {before with factors:=factors}).1.adjustedOhlcv ∧
      ∃ resolutionRef, after.ranges = resolveRange signal.signalId resolutionRef now before.ranges := by
  unfold rebuildSignal at ran
  obtain ⟨⟨factors,ref⟩,derived,returns⟩ := bind_ok ran
  cases returns
  exact ⟨factors,ref,derived,rfl,rfl,rfl,_,rfl⟩

-- The signal's own series comes out as the factors after the signal derive it.
theorem own_series (tracked : Tracked before) (open_ : signal.affectedToDate = none) (harmless : Harmless before signal)
    (derived : deriveAndPersistFactor now signal.revisionId rows before.factors = .ok (factors,ref)) :
    Same (ranged (fun row : AdjustedBar => (⟨some signal.affectedFromDate,signal.affectedToDate⟩ : Bounds).contains row.time.date)
        (({before with factors:=factors} : AdjustedWarehouse).derived (normalized signal.symbol))
        (before.series (normalized signal.symbol)))
      (({before with factors:=factors} : AdjustedWarehouse).derived (normalized signal.symbol)) := by
  rw [open_]
  rcases harmless.window with leading | ⟨known,rebuilt⟩
  · apply ranged_covering
    · intro row stored
      by_cases rebuilt : before.RebuiltBefore (normalized signal.symbol)
      · exact leading_covers leading before.factors ((tracked.rebuilt _ rebuilt row).mp stored)
      · rw [tracked.untouched _ rebuilt] at stored
        cases stored
    · intro row made
      exact leading_covers leading factors made
  · apply ranged_settled
    rcases derive_cases tracked.factored derived with ⟨_,rfl⟩ | ⟨absent,_⟩
    · exact tracked.rebuilt _ rebuilt
    · rw [Known,absent] at known
      cases known

-- The factors of another symbol that was rebuilt stay.
theorem others_factors (tracked : Tracked before)
    (harmless : Harmless before signal) (other : symbol ≠ normalized signal.symbol) (rebuilt : before.RebuiltBefore symbol)
    (derived : deriveAndPersistFactor now signal.revisionId before.research.actions.corporateActions before.factors =
      .ok (factors,ref)) : currentFactors factors symbol = currentFactors before.factors symbol := by
  rcases derive_cases tracked.factored derived with ⟨_,rfl⟩ | ⟨absent,_,identity,inside,row,present,identified,revised,kept⟩
  · rfl
  · rcases harmless.own with known | own
    · rw [Known,absent] at known
      cases known
    · apply kept
      · exact (own row present revised symbol other rebuilt).1
      · exact (own identity inside identified symbol other rebuilt).2

theorem rebuildSignal_tracked {before after : AdjustedWarehouse} (tracked : Tracked before)
    (listed : Listed before.ranges signal) (open_ : signal.affectedToDate = none) (harmless : Harmless before signal)
    (ran : rebuildSignal now signal before = .ok (after,result)) : Tracked after := by
  obtain ⟨factors,ref,derived,same,bars,rows,resolutionRef,resolved⟩ := rebuildSignal_ok ran
  have rebuilt := rebuilt_resolved tracked.keyed listed resolved
  have stored : ∀ symbol, after.series symbol = (buildAdjustedOhlcv signal.symbol
      ⟨some signal.affectedFromDate,signal.affectedToDate⟩ adjustedPriceVersion {before with factors:=factors}).1.series symbol := by
    intro symbol
    unfold AdjustedWarehouse.series
    rw [rows]
  have made : ∀ symbol, after.derived symbol = ({before with factors:=factors} : AdjustedWarehouse).derived symbol := by
    intro symbol
    unfold AdjustedWarehouse.derived
    rw [bars,same]
  constructor
  · rw [resolved]
    exact Rows.updateWhere_distinct (fun _ => rfl) tracked.keyed
  · rw [same]
    rcases derive_cases tracked.factored derived with ⟨_,rfl⟩ | ⟨_,distinct,_⟩
    · exact tracked.factored
    · exact distinct
  · intro symbol now
    rw [stored,made]
    by_cases own : symbol = normalized signal.symbol
    · rw [own]
      exact same_trans build_series (own_series tracked open_ harmless derived)
    · have before_ := ((rebuilt symbol).mp now).resolve_left own
      apply same_trans (build_others own)
      have left : before.derived symbol = ({before with factors:=factors} : AdjustedWarehouse).derived symbol := by
        unfold AdjustedWarehouse.derived
        rw [others_factors tracked harmless own before_ derived]
      rw [← left]
      exact tracked.rebuilt symbol before_
  · intro symbol never
    rw [rebuilt symbol,not_or] at never
    have empty := tracked.untouched symbol never.2
    rw [List.eq_nil_iff_forall_not_mem]
    intro row inside
    rw [stored] at inside
    have listed := (build_others never.1 row).mp inside
    rw [show ({before with factors:=factors} : AdjustedWarehouse).series symbol = [] from empty] at listed
    cases listed

theorem rebuildSignals_tracked (tracked : Tracked before) (listed : ∀ signal ∈ signals, Listed before.ranges signal)
    (open_ : ∀ signal ∈ signals, signal.affectedToDate = none) (steady : Steady now before signals) :
    Tracked (rebuildSignals now before signals).1 := by
  induction signals generalizing before with
  | nil => exact tracked
  | cons signal rest ih =>
    rw [rebuildSignals]
    cases ran : rebuildSignal now signal before with
    | error refused => exact tracked
    | ok done =>
      obtain ⟨after,result⟩ := done
      obtain ⟨harmless,later⟩ := steady after result ran
      have turned := rebuildSignal_tracked tracked (listed signal List.mem_cons_self) (open_ signal List.mem_cons_self) harmless ran
      obtain ⟨_,_,_,_,_,_,_,resolved⟩ := rebuildSignal_ok ran
      apply ih turned
      · intro other inside
        rw [resolved]
        exact listed_resolved (listed other (List.mem_cons_of_mem _ inside))
      · intro other inside
        exact open_ other (List.mem_cons_of_mem _ inside)
      · exact later

/- Runs of revisions and rebuilds over one set of raw bars. -/

inductive AdjustmentEvent where
  | revise (rows : List CorporateAction) (signal : AffectedRange)
  | rebuild (now : Int) (limit : Nat)

-- A revision comes with a signal dated by its anchor and open to the right; its
-- row, and any other, may have changed in whatever way.
inductive AdjustmentStep : AdjustedWarehouse → AdjustmentEvent → AdjustedWarehouse → Prop where
  | revise (fresh : ∀ range ∈ before.ranges, range.signalId ≠ signal.signalId) (unresolved : signal.resolvedAt = none)
      (open_ : signal.affectedToDate = none)
      (anchored : ∃ row ∈ rows, row.revisionId = signal.revisionId ∧ row.observedDate = some signal.affectedFromDate) :
      AdjustmentStep before (.revise rows signal) (before.revised rows signal)
  | rebuild : AdjustmentStep before (.rebuild now limit) (rebuildPendingAdjustedRanges now limit before).1

def AdjustmentCondition (before : AdjustedWarehouse) : AdjustmentEvent → Prop
  | .rebuild now limit => Steady now before (before.pending limit)
  | .revise .. => True

def SteadyStep (_history : List AdjustmentEvent) (before : AdjustedWarehouse) (event : AdjustmentEvent)
    (after : AdjustedWarehouse) : Prop :=
  AdjustmentStep before event after ∧ AdjustmentCondition before event

-- Signals stay open to the right.
theorem rebuildSignals_open (open_ : ∀ range ∈ before.ranges, range.affectedToDate = none) :
    ∀ range ∈ (rebuildSignals now before signals).1.ranges, range.affectedToDate = none := by
  induction signals generalizing before with
  | nil => exact open_
  | cons signal rest ih =>
    rw [rebuildSignals]
    cases ran : rebuildSignal now signal before with
    | error refused => exact open_
    | ok done =>
      obtain ⟨_,_,_,_,_,_,_,resolved⟩ := rebuildSignal_ok ran
      apply ih
      rw [resolved]
      intro range inside
      obtain ⟨source,present,rfl⟩ := List.mem_map.mp inside
      split <;> exact open_ source present

theorem runs_tracked (path : Runs SteadyStep (adjustmentStart outcomes canonicalOhlcv) history state) :
    Tracked state ∧ ∀ range ∈ state.ranges, range.affectedToDate = none := by
  induction path with
  | nil =>
    refine ⟨start_tracked outcomes canonicalOhlcv,?_⟩
    intro range inside
    cases inside
  | step _ step ih =>
    obtain ⟨tracked,open_⟩ := ih
    obtain ⟨step,condition⟩ := step
    cases step with
    | revise fresh unresolved unbounded =>
      refine ⟨revised_tracked tracked fresh unresolved _,?_⟩
      intro range inside
      rcases List.mem_append.mp inside with earlier | latest
      · exact open_ range earlier
      · rw [List.mem_singleton.mp latest]
        exact unbounded
    | rebuild =>
      refine ⟨?_,rebuildSignals_open open_⟩
      apply rebuildSignals_tracked tracked
      · intro signal inside
        exact ⟨signal,mem_pending inside,rfl,rfl⟩
      · intro signal inside
        exact open_ signal (mem_pending inside)
      · exact condition

-- Every stored bar is its raw bar times the factors effective after its day.
def SeriesMultiplied (warehouse : AdjustedWarehouse) : Prop :=
  ∀ symbol, ∀ row ∈ warehouse.series symbol, ∃ bar, Multiplied warehouse symbol bar row

-- A symbol with a resolved signal has the series that a build without bounds leaves.
def SeriesRebuilt (warehouse : AdjustedWarehouse) : Prop :=
  ∀ range ∈ warehouse.ranges, range.resolvedAt.isSome = true →
    Same (warehouse.series (normalized range.symbol))
      ((buildAdjustedOhlcv range.symbol unbounded adjustedPriceVersion warehouse).1.series (normalized range.symbol))

end

/- Splits of VIC, which has bars on the 4th, 5th and 6th. -/

def splitRevision (revisionId : String) (day : Date) : CorporateAction :=
  { revisionId:=revisionId.toList
    actionId:=revisionId.toList
    revisionNumber:=1
    symbol:="VIC".toList
    actionType:="SPLIT".toList
    announcedAt:=none
    exDate:=some day
    recordDate:=none
    effectiveDate:=none
    cashAmount:=none
    ratio:=some 2
    subscriptionPrice:=none
    referencePrice:=none
    revisionHash:=[]
    canonicalStatus:=.current
    supersedesRevisionId:=none
    supersededByRevisionId:=none
    affectedFromDate:=some day }

def splitSignal (revisionId : String) (day : Date) (createdAt : Int) : AffectedRange :=
  ⟨revisionId.toList,revisionId.toList,revisionId.toList,"VIC".toList,day,none,"NEW_ACTION",createdAt,none,none⟩

def earlySplit : CorporateAction := splitRevision "early" (marchDay 4 day_4)

def lateSplit : CorporateAction := splitRevision "late" (marchDay 6 day_6)

def earlySignal : AffectedRange := splitSignal "early" (marchDay 4 day_4) 1

def lateSignal : AffectedRange := splitSignal "late" (marchDay 6 day_6) 2

def splitStart : AdjustedWarehouse := adjustmentStart ⟨[],[],[],[],[],[]⟩ (sampleBars [])

def earlyRevised : AdjustedWarehouse := splitStart.revised [earlySplit] earlySignal

def bothRevised : AdjustedWarehouse := earlyRevised.revised [earlySplit,lateSplit] lateSignal

section
attribute [local instance] samplePlatform sampleDecimals

def earlyRebuilt : AdjustedWarehouse := (rebuildPendingAdjustedRanges 3 100 earlyRevised).1

def bothRebuilt : AdjustedWarehouse := (rebuildPendingAdjustedRanges 3 100 bothRevised).1

theorem earlyRevised_step : AdjustmentStep splitStart (.revise [earlySplit] earlySignal) earlyRevised :=
  .revise (by decide) rfl rfl ⟨earlySplit,List.mem_singleton_self _,rfl,rfl⟩

theorem bothRevised_step : AdjustmentStep earlyRevised (.revise [earlySplit,lateSplit] lateSignal) bothRevised :=
  .revise (by decide) rfl rfl ⟨lateSplit,by simp,rfl,rfl⟩

end
end OpenStock.CorporateActions
