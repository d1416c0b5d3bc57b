import OpenStock.Foundations.Calendar
import OpenStock.Foundations.Rows

namespace OpenStock.Warehouse
open Text Calendar

/- `symbol_classification_history` and the two resolvers of
`warehouse/point_in_time.py`. -/

-- The instant, in microseconds, that the session time zone gives a naive
-- datetime when it is compared with a TIMESTAMPTZ column.
abbrev SessionZone := DateTime → Int

structure HistoryRow where
  symbol : Text
  effectiveFrom : Int
  effectiveTo : Option Int
  sourceSnapshotId : Text
  classificationSource : Text
  exchange : Option Text
  securityType : Text
  lifecycleStatus : Text
  listingDate : Option Date
  delistingDate : Option Date
  sectorCode : Option Text
  sectorName : Option Text
  industryCode : Option Text
  industryName : Option Text
  taxonomyName : Text
  taxonomyVersion : Text
deriving DecidableEq

-- PRIMARY KEY (symbol, effective_from, source_snapshot_id)
def HistoryRow.key (row : HistoryRow) : Text × Int × Text := (row.symbol,row.effectiveFrom,row.sourceSnapshotId)

structure ClassificationHistory where
  rows : List HistoryRow
  distinct : Rows.Distinct HistoryRow.key rows

structure SymbolClassification where
  symbol : Text
  exchange : Option Text
  securityType : Text
  lifecycleStatus : Text
  listingDate : Option Date
  delistingDate : Option Date
  sectorCode : Option Text
  sectorName : Option Text
  industryCode : Option Text
  industryName : Option Text
  taxonomyName : Text
  taxonomyVersion : Text
  effectiveFrom : Int
  effectiveTo : Option Int
  sourceSnapshotId : Text
deriving DecidableEq

-- A blank exchange reads as no exchange.
def rowToClassification (row : HistoryRow) : SymbolClassification :=
  {symbol := row.symbol,exchange := (row.exchange.map strip).filter (fun name => !name.isEmpty),
   securityType := row.securityType,lifecycleStatus := row.lifecycleStatus,
   listingDate := row.listingDate,delistingDate := row.delistingDate,
   sectorCode := row.sectorCode,sectorName := row.sectorName,
   industryCode := row.industryCode,industryName := row.industryName,
   taxonomyName := row.taxonomyName,taxonomyVersion := row.taxonomyVersion,
   effectiveFrom := row.effectiveFrom,effectiveTo := row.effectiveTo,sourceSnapshotId := row.sourceSnapshotId}

-- `date | datetime`, and the same or an ISO string.
inductive Moment where
  | date (day : Date)
  | datetime (time : DateTime)

inductive AsOf where
  | moment (moment : Moment)
  | text (text : Text)

-- A plain date resolves at the end of its day, so that a classification
-- effective from anywhere on that calendar date is in force.
def Moment.asDatetime : Moment → DateTime
  | .date day => ⟨day,.last⟩
  | .datetime time => time

def Moment.resolvedDate : Moment → Date
  | .date day => day
  | .datetime time => time.date

def asDatetime : AsOf → Option DateTime
  | .moment moment => some moment.asDatetime
  | .text text => DateTime.fromIsoformat text

-- A string resolves on the day of the datetime it was read as.
def AsOf.resolvedDate (boundary : DateTime) : AsOf → Date
  | .moment requested => requested.resolvedDate
  | .text _ => boundary.date

def coversLifecycle (listingDate delistingDate : Option Date) (asOf : Date) : Bool :=
  !listingDate.any (fun listing => listing.after asOf) &&
    !delistingDate.any (fun delisting => !delisting.after asOf)

def HistoryRow.covers (row : HistoryRow) (asOf : Date) : Bool :=
  coversLifecycle row.listingDate row.delistingDate asOf

-- `effective_from <= ? AND (effective_to IS NULL OR effective_to > ?)`
def HistoryRow.effectiveAt (row : HistoryRow) (boundary : Int) : Bool :=
  decide (row.effectiveFrom ≤ boundary) && row.effectiveTo.all (fun effectiveTo => decide (boundary < effectiveTo))

-- `ORDER BY effective_from DESC, source_snapshot_id DESC`
def Precedes (left right : HistoryRow) : Prop :=
  right.effectiveFrom < left.effectiveFrom ∨
    left.effectiveFrom = right.effectiveFrom ∧ right.sourceSnapshotId ≤ left.sourceSnapshotId

-- `ORDER BY symbol, effective_from DESC, source_snapshot_id DESC`
def PrecedesBySymbol (left right : HistoryRow) : Prop :=
  left.symbol < right.symbol ∨ left.symbol = right.symbol ∧ Precedes left right

instance : DecidableRel Precedes := fun _ _ => inferInstanceAs (Decidable (_ ∨ _))
instance : DecidableRel PrecedesBySymbol := fun _ _ => inferInstanceAs (Decidable (_ ∨ _))

def effectiveRows (history : ClassificationHistory) (symbol : Text) (boundary : Int) : List HistoryRow :=
  (history.rows.filter (fun row => row.symbol == symbol && row.effectiveAt boundary)).insertionSort Precedes

-- The outer `none` is the ValueError of a string that is no ISO date.
def resolveSymbolClassification (zone : SessionZone) (history : ClassificationHistory) (symbol : Text) (asOf : AsOf) :
    Option (Option SymbolClassification) := do
  let boundary ← asDatetime asOf
  match (effectiveRows history symbol (zone boundary)).head? with
  | none => some none
  | some winner =>
    let classification := rowToClassification winner
    if coversLifecycle classification.listingDate classification.delistingDate (asOf.resolvedDate boundary) then
      some (some classification)
    else some none

structure UniverseScan where
  winners : List (Text × SymbolClassification)
  rowCounts : List (Text × Nat)
  snapshotIds : List Text

-- `counts[symbol] = counts.get(symbol, 0) + 1`
def increment (symbol : Text) (counts : List (Text × Nat)) : List (Text × Nat) :=
  if counts.any (fun entry => entry.1 == symbol) then
    counts.map (fun entry => if entry.1 == symbol then (symbol,entry.2 + 1) else entry)
  else counts ++ [(symbol,1)]

def UniverseScan.step (resolvedDate : Date) (scan : UniverseScan) (row : HistoryRow) : UniverseScan :=
  let counted := {scan with rowCounts := increment row.symbol scan.rowCounts}
  if scan.winners.any (fun entry => entry.1 == row.symbol) then counted else
  let classification := rowToClassification row
  if !coversLifecycle classification.listingDate classification.delistingDate resolvedDate then counted else
  {counted with
    winners := scan.winners ++ [(row.symbol,classification)],
    snapshotIds := if classification.sourceSnapshotId ∈ scan.snapshotIds then scan.snapshotIds
      else scan.snapshotIds ++ [classification.sourceSnapshotId]}

structure PointInTimeUniverse where
  asOfDate : Date
  resolverVersion : String
  classifications : List (Text × SymbolClassification)
  ambiguousSymbols : List Text
  knownSymbolCount : Nat
  sourceSnapshotIds : List Text

def PointInTimeUniverse.get (resolved : PointInTimeUniverse) (symbol : Text) : Option SymbolClassification :=
  (resolved.classifications.find? (fun entry => entry.1 == symbol)).map Prod.snd

def PointInTimeUniverse.symbols (resolved : PointInTimeUniverse) : List Text :=
  (resolved.classifications.map Prod.fst).insertionSort (· ≤ ·)

def scanUniverse (zone : SessionZone) (history : ClassificationHistory) (asOf : Moment) : UniverseScan :=
  let boundary := zone asOf.asDatetime
  let rows := (history.rows.filter (fun row => row.effectiveAt boundary)).insertionSort PrecedesBySymbol
  rows.foldl (UniverseScan.step asOf.resolvedDate) ⟨[],[],[]⟩

def resolveUniverse (zone : SessionZone) (history : ClassificationHistory) (asOf : Moment) : PointInTimeUniverse :=
  let scan := scanUniverse zone history asOf
  let ambiguous := (scan.rowCounts.filter (fun entry =>
    decide (1 < entry.2) && scan.winners.any (fun winner => winner.1 == entry.1))).map Prod.fst
  {asOfDate := asOf.resolvedDate,resolverVersion := "pit-classification-v1",classifications := scan.winners,
   ambiguousSymbols := ambiguous.insertionSort (· ≤ ·),
   knownSymbolCount := (history.rows.map HistoryRow.symbol).dedup.length,
   sourceSnapshotIds := scan.snapshotIds.insertionSort (· ≤ ·)}

section order
variable {left right middle : HistoryRow}

instance : IsTrans HistoryRow Precedes := ⟨by
  intro left middle right first second
  rcases first with later | ⟨same,named⟩
  · rcases second with again | ⟨same,_⟩
    · exact .inl (again.trans later)
    · exact .inl (same ▸ later)
  · rcases second with later | ⟨again,then_⟩
    · exact .inl (same ▸ later)
    · exact .inr ⟨same.trans again,then_.trans named⟩⟩

instance : Std.Total Precedes := ⟨by
  intro left right
  rcases lt_trichotomy left.effectiveFrom right.effectiveFrom with earlier | same | later
  · exact .inr (.inl earlier)
  · rcases le_total right.sourceSnapshotId left.sourceSnapshotId with below | above
    · exact .inl (.inr ⟨same,below⟩)
    · exact .inr (.inr ⟨same.symm,above⟩)
  · exact .inl (.inl later)⟩

instance : IsTrans HistoryRow PrecedesBySymbol := ⟨by
  intro left middle right first second
  rcases first with before | ⟨same,ahead⟩
  · rcases second with again | ⟨same,_⟩
    · exact .inl (before.trans again)
    · exact .inl (same ▸ before)
  · rcases second with before | ⟨again,further⟩
    · exact .inl (same ▸ before)
    · exact .inr ⟨same.trans again,Trans.trans ahead further⟩⟩

instance : Std.Total PrecedesBySymbol := ⟨by
  intro left right
  rcases lt_trichotomy left.symbol right.symbol with before | same | after
  · exact .inl (.inl before)
  · rcases Std.Total.total (r := Precedes) left right with ahead | behind
    · exact .inl (.inr ⟨same,ahead⟩)
    · exact .inr (.inr ⟨same.symm,behind⟩)
  · exact .inr (.inl after)⟩

theorem precedes_both (ahead : Precedes left right) (behind : Precedes right left) :
    left.effectiveFrom = right.effectiveFrom ∧ left.sourceSnapshotId = right.sourceSnapshotId := by
  rcases ahead with later | ⟨same,named⟩
  · rcases behind with again | ⟨same,_⟩
    · exact absurd again (not_lt_of_gt later)
    · exact absurd later (by rw [same]; exact lt_irrefl _)
  · rcases behind with again | ⟨_,back⟩
    · exact absurd again (by rw [same]; exact lt_irrefl _)
    · exact ⟨same,le_antisymm back named⟩

end order

section agreement
variable {zone : SessionZone} {history : ClassificationHistory} {symbol : Text} {day : Date} {boundary : Int}

theorem effective_mem {row : HistoryRow} : row ∈ effectiveRows history symbol boundary ↔
    row ∈ history.rows ∧ row.symbol = symbol ∧ row.effectiveAt boundary = true := by
  rw [effectiveRows,List.mem_insertionSort,List.mem_filter,Bool.and_eq_true,beq_iff_eq]

theorem precedes_unique {left right : HistoryRow} (known : left ∈ history.rows) (other : right ∈ history.rows)
    (same : left.symbol = right.symbol) (ahead : Precedes left right) (behind : Precedes right left) : left = right := by
  obtain ⟨from_,snapshot⟩ := precedes_both ahead behind
  apply Rows.same_row history.distinct known other
  rw [HistoryRow.key,HistoryRow.key,same,from_,snapshot]

/- What the loop over all symbols keeps for one of them. -/

def lookup (symbol : Text) (winners : List (Text × SymbolClassification)) : Option SymbolClassification :=
  (winners.find? (fun entry => entry.1 == symbol)).map Prod.snd

theorem lookup_append (symbol : Text) (winners : List (Text × SymbolClassification)) (entry : Text × SymbolClassification) :
    lookup symbol (winners ++ [entry]) = (lookup symbol winners).or (if entry.1 == symbol then some entry.2 else none) := by
  unfold lookup
  rw [List.find?_append]
  cases winners.find? (fun entry => entry.1 == symbol) with
  | some found => rfl
  | none => by_cases same : (entry.1 == symbol) = true <;> simp [same]

theorem lookup_any (winners : List (Text × SymbolClassification)) :
    winners.any (fun entry => entry.1 == symbol) = (lookup symbol winners).isSome := by
  rw [lookup,Option.isSome_map]
  induction winners with
  | nil => rfl
  | cons entry winners ih => cases same : entry.1 == symbol <;> simp [same,ih]

variable (scan : UniverseScan) (row : HistoryRow)

theorem step_winners :
    (scan.step day row).winners = if (lookup row.symbol scan.winners).isSome || !row.covers day then scan.winners
      else scan.winners ++ [(row.symbol,rowToClassification row)] := by
  have same : coversLifecycle (rowToClassification row).listingDate (rowToClassification row).delistingDate day =
      row.covers day := rfl
  unfold UniverseScan.step
  rw [lookup_any]
  cases (lookup row.symbol scan.winners).isSome with
  | true => rfl
  | false => cases covers : row.covers day <;> simp [same,covers]

theorem step_lookup : lookup symbol (scan.step day row).winners = (lookup symbol scan.winners).or
      (if row.symbol == symbol && row.covers day then some (rowToClassification row) else none) := by
  rw [step_winners]
  cases covers : row.covers day with
  | false => simp
  | true =>
    by_cases same : row.symbol = symbol
    · subst same
      cases held : lookup row.symbol scan.winners <;> simp [held,lookup_append]
    · have other : (row.symbol == symbol) = false := beq_eq_false_iff_ne.mpr same
      cases (lookup row.symbol scan.winners).isSome <;> simp [lookup_append,other]

theorem scan_lookup (rows : List HistoryRow) (scan : UniverseScan) :
    lookup symbol (rows.foldl (UniverseScan.step day) scan).winners = (lookup symbol scan.winners).or
      (((rows.filter (fun row => row.symbol == symbol)).find? (fun row => row.covers day)).map rowToClassification) := by
  induction rows generalizing scan with
  | nil => simp
  | cons row rows ih =>
    rw [List.foldl_cons,ih,step_lookup,Option.or_assoc]
    congr 1
    cases same : row.symbol == symbol with
    | false => simp [same]
    | true => cases covers : row.covers day <;> simp [same,covers]

theorem universe_get (moment : Moment) : (resolveUniverse zone history moment).get symbol =
    ((effectiveRows history symbol (zone moment.asDatetime)).find?
      (fun row => row.covers moment.resolvedDate)).map rowToClassification := by
  let effective := history.rows.filter (fun row => row.effectiveAt (zone moment.asDatetime))
  have named : ∀ row ∈ effective.filter (fun row => row.symbol == symbol), row.symbol = symbol := by
    intro row inside
    exact beq_iff_eq.mp (List.mem_filter.mp inside).2
  have ordered : (effective.insertionSort PrecedesBySymbol).filter (fun row => row.symbol == symbol) =
      effectiveRows history symbol (zone moment.asDatetime) := by
    rw [effectiveRows,← List.filter_filter]
    apply Rows.filter_ordered
    · intro left inside right listed before
      have same := (named left inside).trans (named right listed).symm
      rcases before with below | ⟨_,ahead⟩
      · exact absurd below (by rw [same]; exact lt_irrefl _)
      · exact ahead
    · intro left inside right listed ahead behind
      have known : ∀ row ∈ effective.filter (fun row => row.symbol == symbol), row ∈ history.rows :=
        fun row inside => (List.mem_filter.mp (List.mem_filter.mp inside).1).1
      exact precedes_unique (known left inside) (known right listed)
        ((named left inside).trans (named right listed).symm) ahead behind
  calc (resolveUniverse zone history moment).get symbol
      = lookup symbol ((effective.insertionSort PrecedesBySymbol).foldl
          (UniverseScan.step moment.resolvedDate) ⟨[],[],[]⟩).winners := rfl
    _ = _ := by rw [scan_lookup,ordered]; simp [lookup]

theorem effective_keyed : ∀ left ∈ history.rows.filter (fun row => row.symbol == symbol && row.effectiveAt boundary),
    ∀ right ∈ history.rows.filter (fun row => row.symbol == symbol && row.effectiveAt boundary),
      Precedes left right → Precedes right left → left = right := by
  intro left inside right listed ahead behind
  obtain ⟨known,met⟩ := List.mem_filter.mp inside
  obtain ⟨other,also⟩ := List.mem_filter.mp listed
  rw [Bool.and_eq_true,beq_iff_eq] at met also
  exact precedes_unique known other (met.1.trans also.1.symm) ahead behind

-- The row that wins at an instant.
def Wins (history : ClassificationHistory) (symbol : Text) (boundary : Int) (winner : HistoryRow) : Prop :=
  winner ∈ effectiveRows history symbol boundary ∧ ∀ row ∈ effectiveRows history symbol boundary, Precedes winner row

variable {winner : HistoryRow}

theorem head_wins : (effectiveRows history symbol boundary).head? = some winner ↔ Wins history symbol boundary winner := by
  rw [effectiveRows,Rows.first_ordered effective_keyed]
  simp only [Wins,effectiveRows,List.mem_insertionSort]

theorem resolve_covered (asOf : AsOf) (read : asDatetime asOf = some time) :
    resolveSymbolClassification zone history symbol asOf = some (((effectiveRows history symbol (zone time)).head?.filter
        (fun row => row.covers (asOf.resolvedDate time))).map rowToClassification) := by
  unfold resolveSymbolClassification
  rw [read,Option.bind_eq_bind,Option.bind_some]
  cases (effectiveRows history symbol (zone time)).head? with
  | none => rfl
  | some winner =>
    have same : coversLifecycle (rowToClassification winner).listingDate (rowToClassification winner).delistingDate
        (asOf.resolvedDate time) = winner.covers (asOf.resolvedDate time) := rfl
    simp only [same]
    cases covers : winner.covers (asOf.resolvedDate time) <;> simp [covers]

-- The lifecycle filter after the choice and before it.
theorem covered_first {rows : List HistoryRow} :
    (rows.head?.filter covers).map rowToClassification = (rows.find? covers).map rowToClassification ↔
      ∀ row ∈ rows, covers row = true → ∃ first, rows.head? = some first ∧ covers first = true := by
  constructor
  · intro same row inside met
    cases found : rows.find? covers with
    | none => exact absurd met (List.find?_eq_none.mp found row inside)
    | some kept =>
      rw [found] at same
      obtain ⟨first,chosen,_⟩ := Option.map_eq_some_iff.mp same
      exact ⟨first,Option.filter_eq_some_iff.mp chosen⟩
  · intro led
    cases rows with
    | nil => rfl
    | cons head rest =>
      cases met : covers head with
      | true => simp [met]
      | false =>
        have none : (head :: rest).find? covers = none := by
          apply List.find?_eq_none.mpr
          intro row inside covered
          obtain ⟨first,leads,also⟩ := led row inside covered
          cases leads
          rw [met] at also
          cases also
        rw [none]
        simp [met]

/- The same day asked for as a date and as a string. -/

-- A covering row that wins at one instant of the day is in force at another one,
-- and no row that is in force only then comes before it.
def Persists (history : ClassificationHistory) (symbol : Text) (day : Date) (now other : Int) : Prop :=
  ∀ winner, Wins history symbol now winner → winner.covers day = true → winner.effectiveAt other = true ∧
    ∀ row ∈ effectiveRows history symbol other, row.effectiveAt now = false → Precedes winner row

theorem wins_persists (wins : Wins history symbol boundary winner) :
    Wins history symbol other winner ↔ winner.effectiveAt other = true ∧
      ∀ row ∈ effectiveRows history symbol other, row.effectiveAt boundary = false → Precedes winner row := by
  obtain ⟨known,named,_⟩ := effective_mem.mp wins.1
  constructor
  · intro again
    exact ⟨(effective_mem.mp again.1).2.2,fun row inside _ => again.2 row inside⟩
  · rintro ⟨effective,ahead⟩
    refine ⟨effective_mem.mpr ⟨known,named,effective⟩,?_⟩
    intro row inside
    obtain ⟨listed,same,_⟩ := effective_mem.mp inside
    cases both : row.effectiveAt boundary with
    | false => exact ahead row inside both
    | true => exact wins.2 row (effective_mem.mpr ⟨listed,same,both⟩)

def covered (history : ClassificationHistory) (symbol : Text) (day : Date) (boundary : Int) : Option SymbolClassification :=
  ((effectiveRows history symbol boundary).head?.filter (fun row => row.covers day)).map rowToClassification

theorem covered_some : covered history symbol day boundary = some value ↔
    ∃ winner, Wins history symbol boundary winner ∧ winner.covers day = true ∧ rowToClassification winner = value := by
  simp only [covered,Option.map_eq_some_iff,Option.filter_eq_some_iff,head_wins,and_assoc]

theorem covered_persists : (∀ value, covered history symbol day boundary = some value →
    covered history symbol day other = some value) ↔ Persists history symbol day boundary other := by
  constructor
  · intro kept winner wins covers
    obtain ⟨again,rules,_,same⟩ := covered_some.mp (kept _ (covered_some.mpr ⟨winner,wins,covers,rfl⟩))
    have keyed : again.key = winner.key := congrArg
      (fun value : SymbolClassification => (value.symbol,value.effectiveFrom,value.sourceSnapshotId)) same
    have one : again = winner := Rows.same_row history.distinct (effective_mem.mp rules.1).1 (effective_mem.mp wins.1).1 keyed
    exact (wins_persists wins).mp (one ▸ rules)
  · intro persists value chosen
    obtain ⟨winner,wins,covers,same⟩ := covered_some.mp chosen
    exact covered_some.mpr ⟨winner,(wins_persists wins).mpr (persists winner wins covers),covers,same⟩

-- The resolvers agree exactly when the lifecycle hides no row that comes first,
-- and no row that starts or ends within the day decides the winner.
theorem resolvers_agree (zone : SessionZone) (history : ClassificationHistory) (symbol : Text) (day : Date) :
    (resolveSymbolClassification zone history symbol (.moment (.date day)) =
        some ((resolveUniverse zone history (.date day)).get symbol) ∧
      resolveSymbolClassification zone history symbol (.moment (.date day)) =
        resolveSymbolClassification zone history symbol (.text day.isoformat)) ↔
    (∀ row ∈ effectiveRows history symbol (zone ⟨day,.last⟩), row.covers day = true →
      ∃ winner, Wins history symbol (zone ⟨day,.last⟩) winner ∧ winner.covers day = true) ∧
    Persists history symbol day (zone ⟨day,.last⟩) (zone ⟨day,.midnight⟩) ∧
    Persists history symbol day (zone ⟨day,.midnight⟩) (zone ⟨day,.last⟩) := by
  have dated : resolveSymbolClassification zone history symbol (.moment (.date day)) =
      some (covered history symbol day (zone ⟨day,.last⟩)) := resolve_covered _ rfl
  have texted : resolveSymbolClassification zone history symbol (.text day.isoformat) =
      some (covered history symbol day (zone ⟨day,.midnight⟩)) := resolve_covered _ (datetime_fromIsoformat_date day)
  apply and_congr
  · rw [dated,universe_get,Option.some.injEq]
    refine covered_first.trans ?_
    simp only [head_wins]
  · rw [dated,texted,Option.some.injEq,← covered_persists,← covered_persists]
    constructor
    · intro same
      exact ⟨fun value chosen => same ▸ chosen,fun value chosen => same.symm ▸ chosen⟩
    · rintro ⟨forth,back⟩
      exact Option.ext (fun value => ⟨forth value,back value⟩)

end agreement

/- Two overlapping rows of which the later one is delisted, and a row that
starts at noon. -/

def sampleZone : SessionZone := fun time => (time.date.toOrdinal * 86400000000 + time.time.toMicroseconds : Nat) - 25200000000

def sampleDay : Date := .of 2024 3 15

def sampleRow (symbol snapshot : Text) (time : DateTime) (delisted : Option Date) : HistoryRow :=
  {symbol := symbol,effectiveFrom := sampleZone time,effectiveTo := none,sourceSnapshotId := snapshot,
   classificationSource := "KBS".toList,exchange := none,
   securityType := "STOCK".toList,lifecycleStatus := "ACTIVE".toList,listingDate := none,delistingDate := delisted,
   sectorCode := none,sectorName := none,industryCode := none,industryName := none,
   taxonomyName := "ICB".toList,taxonomyVersion := "1".toList}

def sampleHistory : ClassificationHistory where
  rows :=
    [sampleRow "AAA".toList ['1'] ⟨.of 2024 1 2,.midnight⟩ none,
     sampleRow "AAA".toList ['2'] ⟨.of 2024 3 1,.midnight⟩
       (some (.of 2024 3 1)),
     sampleRow "BBB".toList ['1'] ⟨sampleDay,(mkTime 12 0 0 0).getD .midnight⟩ none]
  distinct := by
    unfold Rows.Distinct
    decide

theorem resolvers_differ : ¬ ∀ (zone : SessionZone) (history : ClassificationHistory) (symbol : Text) (day : Date),
    resolveSymbolClassification zone history symbol (.moment (.date day)) =
        some ((resolveUniverse zone history (.date day)).get symbol) ∧
      resolveSymbolClassification zone history symbol (.moment (.date day)) =
        resolveSymbolClassification zone history symbol (.text day.isoformat) := by
  intro agree
  have hidden : resolveSymbolClassification sampleZone sampleHistory "AAA".toList (.moment (.date sampleDay)) = some none ∧
      ((resolveUniverse sampleZone sampleHistory (.date sampleDay)).get "AAA".toList).isSome = true := by decide
  have same := (agree sampleZone sampleHistory "AAA".toList sampleDay).1
  rw [hidden.1,Option.some.injEq] at same
  rw [← same] at hidden
  cases hidden.2

-- The row that starts at noon is in force for the date and not for its string.
example : resolveSymbolClassification sampleZone sampleHistory "BBB".toList (.moment (.date sampleDay)) ≠
    resolveSymbolClassification sampleZone sampleHistory "BBB".toList (.text sampleDay.isoformat) := by decide

end OpenStock.Warehouse
