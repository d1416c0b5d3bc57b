import OpenStock.CurrentSymbol.OhlcvReadiness

namespace OpenStock.CurrentSymbol.Ohlcv
open Text Calendar Ingestion Stretches

/- The sessions of a range, and those a rewind passes. -/

variable {date : Date}

theorem dayAfter_some (early : date.year < 9999) : ∃ next, date.dayAfter = some next := by
  unfold Date.dayAfter
  split
  · exact ⟨_,rfl⟩
  · split
    · exact ⟨_,rfl⟩
    · exact ⟨_,rfl⟩

theorem year_le {left right : Date} (order : left ≤ right) : left.year ≤ right.year := by
  have stamps := stamp_le.mp order
  have one := left.fields
  have other := right.fields
  simp only [Date.stamp] at stamps
  omega

theorem sessionsFrom_ordered (calendar : VietnamSessionCalendar) {current final : Date} (early : final.year < 9999) :
    ∃ listed, calendar.sessionsFrom current final = .ok listed ∧ listed.Pairwise (· < ·) := by
  induction left : final.stamp + 1 - current.stamp using Nat.strong_induction_on generalizing current with
  | _ days ih =>
    by_cases inside : current ≤ final
    · obtain ⟨next,found⟩ := dayAfter_some (Nat.lt_of_le_of_lt (year_le inside) early)
      obtain ⟨after,_⟩ := dayAfter_after found
      have fewer : final.stamp + 1 - next.stamp < days := by
        have step := stamp_lt.mp after
        have bound := stamp_le.mp inside
        omega
      obtain ⟨later,done,ordered⟩ := ih _ fewer rfl
      refine ⟨if calendar.isSession current then current :: later else later,?_,?_⟩
      · rw [sessionsFrom_next calendar inside found,done]
        rfl
      · split
        · refine List.pairwise_cons.mpr ⟨fun session member => ?_,ordered⟩
          exact after.trans_le ((mem_sessionsFrom calendar done session).mp member).2.1
        · exact ordered
    · exact ⟨[],sessionsFrom_past calendar inside,List.Pairwise.nil⟩

variable {calendar : VietnamSessionCalendar} {current start : Date}

-- A rewind passes as many sessions as it was asked to.
theorem rewound_sessions
    (done : calendar.rewindFrom remaining current = .ok start) : start ≤ current ∧ ∃ passed : List Date, passed.length = remaining ∧ passed.Nodup ∧
      ∀ date ∈ passed, calendar.isSession date = true ∧ start ≤ date ∧ date < current := by
  rw [rewindFrom_back] at done
  cases remaining with
  | zero =>
    cases done
    exact ⟨le_refl _,[],rfl,List.nodup_nil,fun date member => by cases member⟩
  | succ more =>
    simp only at done
    split at done
    · cases done
    · rename_i session found
      cases done
      obtain ⟨inside,placed⟩ := List.getElem?_eq_some_iff.mp found
      have descending := sessionsBack_descending calendar current
      have distinct : (calendar.sessionsBack current).Nodup := descending.imp (fun below => below.ne')
      refine ⟨((mem_sessionsBack calendar).mp (List.mem_of_getElem? found)).1.le,(calendar.sessionsBack current).take (more + 1),?_,
        distinct.sublist (List.take_sublist ..),?_⟩
      · rw [List.length_take]
        omega
      · intro date member
        obtain ⟨place,there⟩ := List.mem_iff_getElem?.mp member
        obtain ⟨short,same⟩ := List.getElem?_eq_some_iff.mp there
        rw [List.length_take] at short
        rw [List.getElem_take] at same
        obtain ⟨earlier,trading⟩ := (mem_sessionsBack calendar).mp (List.mem_of_mem_take member)
        refine ⟨trading,?_,earlier⟩
        rw [← same,← placed]
        obtain before | here := Nat.lt_or_eq_of_le (Nat.le_of_lt_succ (show place < more + 1 by omega))
        · exact (List.pairwise_iff_getElem.mp descending place more (by omega) inside before).le
        · exact le_of_eq (by simp only [here])

/- An inspection: a session of the calendar, and a window that reaches its first required session. -/

structure Inspection (calendar : VietnamSessionCalendar) (query : OhlcvQuery) (start : Date) : Prop where
  session : calendar.isSession query.effectiveDate = true
  early : query.effectiveDate.year < 9999
  positive : 1 ≤ query.requiredRows
  rewound : calendar.rewindSessions query.effectiveDate query.requiredRows = .ok start
  reaches : query.lookbackStart ≤ start

def Required (calendar : VietnamSessionCalendar) (query : OhlcvQuery) (start date : Date) : Prop :=
  calendar.isSession date = true ∧ start ≤ date ∧ date ≤ query.effectiveDate

def HasBar (query : OhlcvQuery) (warehouse : OhlcvWarehouse) (date : Date) : Prop :=
  ∃ row ∈ warehouse.canonical, row.symbol = query.symbol ∧ row.interval = daily ∧ row.date = date

-- Every bar of the window has an acceptable quality, and no gap of it is open.
structure Acceptable (query : OhlcvQuery) (warehouse : OhlcvWarehouse) : Prop where
  quality : ∀ row ∈ windowRows query warehouse, unacceptable query row = false
  gaps : ∀ gap ∈ warehouse.gaps, openGap query gap = false

section
variable {calendar : VietnamSessionCalendar} {query : OhlcvQuery} {start : Date} {warehouse : OhlcvWarehouse}

theorem available_iff : date ∈ availableSessions query warehouse ↔
    HasBar query warehouse date ∧ query.lookbackStart ≤ date ∧ date ≤ query.effectiveDate := by
  simp only [availableSessions,windowRows,HasBar,List.mem_map,List.mem_filter,Bool.and_eq_true,beq_iff_eq,within,decide_eq_true_eq]
  constructor
  · intro ⟨row,⟨member,⟨symbol,interval⟩,inside⟩,same⟩
    subst same
    exact ⟨⟨row,member,symbol,interval,rfl⟩,inside⟩
  · intro ⟨⟨row,member,symbol,interval,same⟩,inside⟩
    subst same
    exact ⟨row,⟨member,⟨symbol,interval⟩,inside⟩,rfl⟩

theorem Inspection.rewind (inspection : Inspection calendar query start) :
    calendar.rewindFrom (query.requiredRows - 1).toNat query.effectiveDate = .ok start := by
  have rewound := inspection.rewound
  unfold VietnamSessionCalendar.rewindSessions at rewound
  rwa [if_neg (not_lt.mpr inspection.positive)] at rewound

theorem Inspection.back (inspection : Inspection calendar query start) : start ≤ query.effectiveDate := (rewound_sessions inspection.rewind).1

theorem Inspection.sessions (inspection : Inspection calendar query start) : ∃ listed range,
    sessionRange start query.effectiveDate = .ok range ∧ calendar.sessions range = .ok listed ∧ listed.Pairwise (· < ·) ∧
    ∀ date, date ∈ listed ↔ Required calendar query start date := by
  obtain ⟨listed,done,ordered⟩ := @sessionsFrom_ordered calendar start query.effectiveDate inspection.early
  exact ⟨listed,⟨start,query.effectiveDate,inspection.back⟩,dif_pos inspection.back,done,ordered,mem_sessionsFrom calendar done⟩

theorem Inspection.available (inspection : Inspection calendar query start) (required : Required calendar query start date) :
    date ∈ availableSessions query warehouse ↔ HasBar query warehouse date := by
  rw [available_iff]
  exact ⟨fun both => both.1,fun bar => ⟨bar,inspection.reaches.trans required.2.1,required.2.2⟩⟩

theorem Inspection.final (inspection : Inspection calendar query start) : Required calendar query start query.effectiveDate :=
  ⟨inspection.session,inspection.back,le_refl _⟩

theorem required_listed (inspection : Inspection calendar query start) : ∃ listed, requiredSessions calendar query = .ok listed ∧
    ∀ date, date ∈ listed ↔ Required calendar query start date := by
  obtain ⟨listed,range,ranged,done,_,members⟩ := inspection.sessions
  exact ⟨listed,by simp only [requiredSessions,bind,Except.bind,inspection.rewound,ranged,done],members⟩

-- A bar on every required session is enough rows.
theorem enough_rows (inspection : Inspection calendar query start) (full : ∀ date, Required calendar query start date → HasBar query warehouse date) :
    query.requiredRows ≤ ((windowRows query warehouse).length : Int) := by
  obtain ⟨_,passed,count,distinct,between⟩ := rewound_sessions inspection.rewind
  have all : (query.effectiveDate :: passed).Nodup :=
    List.nodup_cons.mpr ⟨fun member => absurd (between _ member).2.2 (lt_irrefl _),distinct⟩
  have present : ∀ date ∈ query.effectiveDate :: passed, date ∈ availableSessions query warehouse := by
    intro date member
    have required : Required calendar query start date := by
      obtain rfl | earlier := List.mem_cons.mp member
      · exact inspection.final
      · obtain ⟨trading,above,below⟩ := between date earlier
        exact ⟨trading,above,below.le⟩
    exact (inspection.available required).mpr (full date required)
  have few := (all.subperm present).length_le
  have positive := inspection.positive
  rw [List.length_cons,count,availableSessions,List.length_map] at few
  omega

theorem latest_effective (inspection : Inspection calendar query start) (bar : HasBar query warehouse query.effectiveDate) :
    ((windowRows query warehouse).map CanonicalRow.date).max? = some query.effectiveDate := by
  refine List.max?_eq_some_iff.mpr ⟨(inspection.available inspection.final).mpr bar,fun date member => ?_⟩
  exact (available_iff.mp member).2.2

-- The bars are ready exactly when each required session has one.
theorem ready_iff (inspection : Inspection calendar query start) (acceptable : Acceptable query warehouse) :
    readiness calendar warehouse query = .ok .ready ↔ ∀ date, Required calendar query start date → HasBar query warehouse date := by
  obtain ⟨listed,required,members⟩ := required_listed inspection
  have quality : (windowRows query warehouse).any (unacceptable query) = false :=
    List.any_eq_false.mpr (fun row member => by simp [acceptable.quality row member])
  have gaps : warehouse.gaps.any (openGap query) = false := List.any_eq_false.mpr (fun gap member => by simp [acceptable.gaps gap member])
  have complete : listed.any (fun session => decide (session ∉ availableSessions query warehouse)) = false ↔
      ∀ date, Required calendar query start date → HasBar query warehouse date := by
    rw [List.any_eq_false]
    simp only [decide_eq_true_eq,not_not]
    exact ⟨fun all date inside => (inspection.available inside).mp (all date ((members date).mpr inside)),
      fun full date member => (inspection.available ((members date).mp member)).mpr (full date ((members date).mp member))⟩
  simp only [readiness,ohlcvSummary,required,bind,Except.bind,ohlcvState,quality,gaps,Bool.or_self,Bool.false_eq_true,if_false]
  constructor
  · intro ready
    refine complete.mp ?_
    by_contra lacking
    have lacking : listed.any (fun session => decide (session ∉ availableSessions query warehouse)) = true := by simpa using lacking
    rw [lacking] at ready
    split at ready
    · cases ready
    · rw [if_pos (.inr (.inr rfl))] at ready
      cases ready
  · intro full
    have enough := enough_rows inspection full
    have positive := inspection.positive
    have some : (windowRows query warehouse).length ≠ 0 := by omega
    rw [if_neg some,complete.mpr full,latest_effective inspection (full _ inspection.final),if_neg]
    intro short
    obtain few | other | lacking := short
    · omega
    · exact other rfl
    · cases lacking

end

/- The proposed ranges. -/

def BoundedDateRange.covers (range : BoundedDateRange) (date : Date) : Prop := range.startDate ≤ date ∧ date ≤ range.endDate

-- Increasing ranges, a session with a bar between any two, that hold the missing
-- required sessions and no other session.
structure RangesExact (calendar : VietnamSessionCalendar) (query : OhlcvQuery) (start : Date) (warehouse : OhlcvWarehouse)
    (ranges : List BoundedDateRange) : Prop where
  apart : ranges.Pairwise (fun left right => ∃ session, Required calendar query start session ∧ HasBar query warehouse session ∧
    left.endDate < session ∧ session < right.startDate)
  ordered : ∀ range ∈ ranges, range.startDate ≤ range.endDate
  exact : ∀ date, calendar.isSession date = true →
    ((∃ range ∈ ranges, range.covers date) ↔ Required calendar query start date ∧ ¬ HasBar query warehouse date)

section
variable {calendar : VietnamSessionCalendar} {query : OhlcvQuery} {start : Date} {warehouse : OhlcvWarehouse}

def missingSession (query : OhlcvQuery) (warehouse : OhlcvWarehouse) (date : Date) : Bool := decide (date ∉ availableSessions query warehouse)

theorem Inspection.missing (inspection : Inspection calendar query start) (required : Required calendar query start date) :
    missingSession query warehouse date = true ↔ ¬ HasBar query warehouse date := by
  rw [missingSession,decide_eq_true_eq,inspection.available required]

-- Which ranges the three ways out of the function give.
theorem ranges_cases (inspection : Inspection calendar query start) : ∃ listed : List Date, listed.Pairwise (· < ·) ∧
    (∀ date, date ∈ listed ↔ Required calendar query start date) ∧
    ((availableSessions query warehouse = [] ∧ missingRanges calendar warehouse query = .ok [⟨start,query.effectiveDate⟩]) ∨
      ((∀ date, Required calendar query start date → HasBar query warehouse date) ∧
        missingRanges calendar warehouse query = .ok [⟨query.lookbackStart,query.effectiveDate⟩]) ∨
      missingRanges calendar warehouse query = .ok ((stretches (missingSession query warehouse) listed).map rangeOf)) := by
  obtain ⟨listed,range,ranged,done,ordered,members⟩ := inspection.sessions
  refine ⟨listed,ordered,members,?_⟩
  by_cases empty : availableSessions query warehouse = []
  · exact .inl ⟨empty,by simp only [missingRanges,bind,Except.bind,inspection.rewound,empty,if_true]⟩
  · refine .inr ?_
    cases found : listed.zipIdx.filter (fun session => missingSession query warehouse session.1) with
    | nil =>
      have shape : missingRanges calendar warehouse query = .ok [⟨query.lookbackStart,query.effectiveDate⟩] := by
        have none : listed.zipIdx.filter (fun session => decide (session.1 ∉ availableSessions query warehouse)) = [] := found
        simp only [missingRanges,bind,Except.bind,inspection.rewound,empty,if_false,ranged,done,none]
      refine .inl ⟨fun date required => ?_,shape⟩
      by_contra lacking
      obtain ⟨place,there⟩ := List.mem_iff_getElem?.mp ((members date).mpr required)
      have kept : (date,place) ∈ listed.zipIdx.filter (fun session => missingSession query warehouse session.1) :=
        List.mem_filter.mpr ⟨List.mk_mem_zipIdx_iff_getElem?.mpr there,(inspection.missing required).mpr lacking⟩
      rw [found] at kept
      cases kept
    | cons first rest =>
      have shape : missingRanges calendar warehouse query = .ok (groupMissing first.1 first rest) := by
        have some' : listed.zipIdx.filter (fun session => decide (session.1 ∉ availableSessions query warehouse)) =
          first :: rest := found
        simp only [missingRanges,bind,Except.bind,inspection.rewound,empty,if_false,ranged,done,some']
      exact .inr (shape.trans (congrArg _ (grouped_stretches _ listed ordered 0 found)))

theorem stretches_ranges (inspection : Inspection calendar query start) (ordered : listed.Pairwise (· < ·))
    (members : ∀ date, date ∈ listed ↔ Required calendar query start date) :
    RangesExact calendar query start warehouse ((stretches (missingSession query warehouse) listed).map rangeOf) := by
  have exact := stretches_exact (missingSession query warehouse) listed ordered
  refine ⟨?_,?_,?_⟩
  · refine List.pairwise_map.mpr (exact.apart.imp ?_)
    intro left right ⟨session,inside,plain,above,below⟩
    have required := (members session).mp inside
    refine ⟨session,required,?_,above,below⟩
    by_contra lacking
    rw [(inspection.missing required).mpr lacking] at plain
    cases plain
  · intro range member
    obtain ⟨pair,inside,same⟩ := List.mem_map.mp member
    exact same ▸ (exact.ends pair inside).2.2
  · intro date trading
    constructor
    · intro ⟨range,member,above,below⟩
      obtain ⟨pair,inside,same⟩ := List.mem_map.mp member
      subst same
      obtain ⟨first,last,_⟩ := exact.ends pair inside
      have required : Required calendar query start date :=
        ⟨trading,((members _).mp first).2.1.trans above,below.trans ((members _).mp last).2.2⟩
      refine ⟨required,(inspection.missing required).mp ?_⟩
      exact (exact.covers date ((members date).mpr required)).mpr ⟨pair,inside,above,below⟩
    · intro ⟨required,lacking⟩
      obtain ⟨pair,inside,above,below⟩ :=
        (exact.covers date ((members date).mpr required)).mp ((inspection.missing required).mpr lacking)
      exact ⟨rangeOf pair,List.mem_map.mpr ⟨pair,inside,rfl⟩,above,below⟩

variable {ranges : List BoundedDateRange}

-- Where some but not all required sessions have bars the ranges are exact.
theorem ranges_exact (inspection : Inspection calendar query start)
    (proposed : missingRanges calendar warehouse query = .ok ranges) (some : ∃ date, Required calendar query start date ∧ HasBar query warehouse date)
    (lacking : ∃ date, Required calendar query start date ∧ ¬ HasBar query warehouse date) :
    RangesExact calendar query start warehouse ranges := by
  obtain ⟨listed,ordered,members,empty | full | stretched⟩ := @ranges_cases calendar query start warehouse inspection
  · obtain ⟨date,required,bar⟩ := some
    have inside := (inspection.available required).mpr bar
    rw [empty.1] at inside
    cases inside
  · obtain ⟨date,required,none⟩ := lacking
    exact absurd (full.1 date required) none
  · rw [stretched] at proposed
    cases proposed
    exact stretches_ranges inspection ordered members

-- Every required session without a bar lies in a proposed range.
theorem lacking_proposed (inspection : Inspection calendar query start)
    (proposed : missingRanges calendar warehouse query = .ok ranges) (required : Required calendar query start date)
    (lacking : ¬ HasBar query warehouse date) : ∃ range ∈ ranges, range.covers date := by
  obtain ⟨listed,ordered,members,empty | full | stretched⟩ := @ranges_cases calendar query start warehouse inspection
  · rw [empty.2] at proposed
    cases proposed
    exact ⟨_,List.mem_singleton_self _,required.2⟩
  · exact absurd (full.1 date required) lacking
  · rw [stretched] at proposed
    cases proposed
    exact ((stretches_ranges inspection ordered members).exact date required.1).mpr ⟨required,lacking⟩

-- Once the proposed ranges are filled the bars are ready.
theorem filled_ready (inspection : Inspection calendar query start)
    (proposed : missingRanges calendar warehouse query = .ok ranges) (acceptable : Acceptable query later)
    (kept : ∀ date, HasBar query warehouse date → HasBar query later date)
    (filled : ∀ range ∈ ranges, ∀ date, calendar.isSession date = true → range.covers date → HasBar query later date) :
    readiness calendar later query = .ok .ready := by
  refine (ready_iff inspection acceptable).mpr ?_
  intro date required
  by_cases bar : HasBar query warehouse date
  · exact kept date bar
  · obtain ⟨range,member,covers⟩ := lacking_proposed inspection proposed required bar
    exact filled range member date required.1 covers

theorem ranges_proposed (inspection : Inspection calendar query start) : ∃ ranges, missingRanges calendar warehouse query = .ok ranges := by
  obtain ⟨_,_,_,empty | full | stretched⟩ := @ranges_cases calendar query start warehouse inspection
  · exact ⟨_,empty.2⟩
  · exact ⟨_,full.2⟩
  · exact ⟨_,stretched⟩

end

/- The service's calendar, over its coverage. -/

-- Before its coverage the calendar knows weekends only.
theorem uncovered_weekday (before : date < validFrom) : exchangeCalendar.isSession date = decide (date.weekday < 5) := by
  have known : ∀ holiday ∈ exchangeCalendar.holidays, validFrom ≤ holiday := by decide
  have absent : date ∉ exchangeCalendar.holidays := fun member => absurd (known date member) (not_le.mpr before)
  simp [VietnamSessionCalendar.isSession,absent]

theorem covered_early (covered : date ≤ validThrough) : date.year < 9999 :=
  Nat.lt_of_le_of_lt (year_le covered) (by decide)

theorem ohlcv_ranges_exact (query : OhlcvQuery) (start : Date) (warehouse : OhlcvWarehouse)
    (session : exchangeCalendar.isSession query.effectiveDate = true) (covered : validFrom ≤ query.effectiveDate ∧ query.effectiveDate ≤ validThrough)
    (positive : 1 ≤ query.requiredRows) (rewound : exchangeCalendar.rewindSessions query.effectiveDate query.requiredRows = .ok start)
    (reaches : query.lookbackStart ≤ start) (acceptable : Acceptable query warehouse) :
    ∃ ranges, missingRanges exchangeCalendar warehouse query = .ok ranges ∧
      ((∃ date, Required exchangeCalendar query start date ∧ HasBar query warehouse date) →
        (∃ date, Required exchangeCalendar query start date ∧ ¬ HasBar query warehouse date) →
          RangesExact exchangeCalendar query start warehouse ranges) ∧
      (∀ later, Acceptable query later → (∀ date, HasBar query warehouse date → HasBar query later date) →
        (∀ range ∈ ranges, ∀ date, exchangeCalendar.isSession date = true → range.covers date → HasBar query later date) →
          readiness exchangeCalendar later query = .ok .ready) ∧ (readiness exchangeCalendar warehouse query = .ok .ready ↔
        ∀ date, Required exchangeCalendar query start date → HasBar query warehouse date) ∧
      ∀ date, date < validFrom → exchangeCalendar.isSession date = decide (date.weekday < 5) := by
  have inspection : Inspection exchangeCalendar query start := ⟨session,covered_early covered.2,positive,rewound,reaches⟩
  obtain ⟨ranges,proposed⟩ := @ranges_proposed _ _ _ warehouse inspection
  exact ⟨ranges,proposed,fun some lacking => ranges_exact inspection proposed some lacking,
    fun later sound kept filled => filled_ready inspection proposed sound kept filled,ready_iff inspection acceptable,
    fun _ before => uncovered_weekday before⟩

/- Rewinding by hand, with a bound on the days passed. -/

def rewindWithin (calendar : VietnamSessionCalendar) : Nat → Nat → Date → Option Date
  | _,0,current => some current
  | 0,_ + 1,_ => none
  | days + 1,more + 1,current =>
    match current.yesterday with
    | none => none
    | some before => rewindWithin calendar days (if calendar.isSession before then more else more + 1) before

theorem rewindWithin_rewinds
    (done : rewindWithin calendar days remaining current = some start) : calendar.rewindFrom remaining current = .ok start := by
  induction days generalizing remaining current with
  | zero =>
    cases remaining with
    | zero =>
      cases done
      exact rewindFrom_zero calendar _
    | succ more => cases done
  | succ days later =>
    cases remaining with
    | zero =>
      cases done
      exact rewindFrom_zero calendar _
    | succ more =>
      cases found : current.yesterday with
      | none => simp [rewindWithin,found] at done
      | some before =>
        simp only [rewindWithin,found] at done
        rw [rewindFrom_step calendar found]
        exact later done

def january5 : Date := .of 2026 1 5
def december31 : Date := .of 2025 12 31

def januaryQuery : OhlcvQuery := ⟨"FPT".toList,january5,december31,2,["pass".toList]⟩
def passingBar (date : Date) : CanonicalRow := ⟨"FPT".toList,daily,date,some "pass".toList⟩
def januaryWarehouse : OhlcvWarehouse := ⟨[passingBar december31],[]⟩

theorem passing_acceptable {dates : List Date} {query : OhlcvQuery} (statuses : query.acceptableQualityStatuses = ["pass".toList]) :
    Acceptable query ⟨dates.map passingBar,[]⟩ := by
  refine ⟨fun row member => ?_,fun gap member => by cases member⟩
  obtain ⟨date,_,same⟩ := List.mem_map.mp (List.mem_of_mem_filter member)
  subst same
  have status : sqlLower ((passingBar date).qualityStatus.getD []) = "pass".toList := rfl
  simp only [unacceptable,statuses,status]
  rfl

theorem january_rewound : exchangeCalendar.rewindSessions january5 2 = .ok december31 := by
  have done : rewindWithin exchangeCalendar 5 1 january5 = some december31 := by decide
  exact rewindWithin_rewinds done

theorem ohlcv_ranges_exact_sample : ∃ ranges, missingRanges exchangeCalendar januaryWarehouse januaryQuery = .ok ranges ∧
    ((∃ date, Required exchangeCalendar januaryQuery december31 date ∧ HasBar januaryQuery januaryWarehouse date) →
      (∃ date, Required exchangeCalendar januaryQuery december31 date ∧ ¬ HasBar januaryQuery januaryWarehouse date) →
        RangesExact exchangeCalendar januaryQuery december31 januaryWarehouse ranges) ∧
    (∀ later, Acceptable januaryQuery later → (∀ date, HasBar januaryQuery januaryWarehouse date → HasBar januaryQuery later date) →
      (∀ range ∈ ranges, ∀ date, exchangeCalendar.isSession date = true → range.covers date → HasBar januaryQuery later date) →
        readiness exchangeCalendar later januaryQuery = .ok .ready) ∧
    (readiness exchangeCalendar januaryWarehouse januaryQuery = .ok .ready ↔
      ∀ date, Required exchangeCalendar januaryQuery december31 date → HasBar januaryQuery januaryWarehouse date) ∧
    ∀ date, date < validFrom → exchangeCalendar.isSession date = decide (date.weekday < 5) :=
  ohlcv_ranges_exact januaryQuery december31 januaryWarehouse (by decide) (by decide) (by decide) january_rewound (le_refl _)
    (@passing_acceptable [december31] januaryQuery rfl)

-- A bar for every day the exchange was open makes the bars ready.
def ReadyWhenOpen : Prop :=
  ∀ (opened : Date → Bool) (query : OhlcvQuery) (start : Date) (warehouse : OhlcvWarehouse),
    (∀ date, opened date = true → exchangeCalendar.isSession date = true) →
    (∀ date, validFrom ≤ date → date ≤ validThrough → opened date = exchangeCalendar.isSession date) →
    exchangeCalendar.isSession query.effectiveDate = true → validFrom ≤ query.effectiveDate ∧ query.effectiveDate ≤ validThrough →
    1 ≤ query.requiredRows → exchangeCalendar.rewindSessions query.effectiveDate query.requiredRows = .ok start →
    query.lookbackStart ≤ start → Acceptable query warehouse →
    (∀ date, query.lookbackStart ≤ date → date ≤ query.effectiveDate → opened date = true → HasBar query warehouse date) →
    readiness exchangeCalendar warehouse query = .ok .ready

def august29 : Date := .of 2025 8 29
def nationalDay : Date := .of 2025 9 2
def nationalDays : List Date := [.of 2025 9 1,nationalDay]

-- The exchange was closed on the two national days of 2025.
def exchangeOpen (date : Date) : Bool := exchangeCalendar.isSession date && !nationalDays.contains date

def autumnQuery : OhlcvQuery := ⟨"FPT".toList,january5,august29,90,["pass".toList]⟩
def autumnWarehouse : OhlcvWarehouse := ⟨((january5 :: january5.daysBack).filter exchangeOpen).map passingBar,[]⟩

theorem autumn_rewound : exchangeCalendar.rewindSessions january5 90 = .ok august29 := by
  have done : rewindWithin exchangeCalendar 129 89 january5 = some august29 := by decide
  exact rewindWithin_rewinds done

theorem autumn_bar : HasBar autumnQuery autumnWarehouse date ↔ exchangeOpen date = true ∧ date ≤ january5 := by
  simp only [HasBar,autumnWarehouse,List.mem_map,List.mem_filter,List.mem_cons,mem_daysBack]
  constructor
  · intro found
    obtain ⟨row,⟨day,⟨near,given⟩,made⟩,_,_,same⟩ := found
    subst made
    have here : day = date := same
    subst here
    obtain rfl | earlier := near
    · exact ⟨given,le_refl _⟩
    · exact ⟨given,earlier.le⟩
  · intro required
    obtain ⟨given,before⟩ := required
    exact ⟨passingBar date,⟨date,⟨before.eq_or_lt,given⟩,rfl⟩,rfl,rfl,rfl⟩

theorem closed_day_required : ¬ ReadyWhenOpen := by
  intro claim
  have acceptable : Acceptable autumnQuery autumnWarehouse := passing_acceptable rfl
  have inspection : Inspection exchangeCalendar autumnQuery august29 := ⟨by decide,by decide,by decide,autumn_rewound,le_refl _⟩
  have covered : ∀ date, validFrom ≤ date → date ≤ validThrough → exchangeOpen date = exchangeCalendar.isSession date := by
    intro date after _
    have earlier : ∀ day ∈ nationalDays, day < validFrom := by decide
    have other : date ∉ nationalDays := fun member => absurd (earlier date member) (not_lt.mpr after)
    simp [exchangeOpen,other]
  have ready := claim exchangeOpen autumnQuery august29 autumnWarehouse (fun date given => (Bool.and_eq_true_iff.mp given).1) covered
    (by decide) (by decide) (by decide) autumn_rewound (le_refl _) acceptable (fun date _ before given => autumn_bar.mpr ⟨given,before⟩)
  have bar := (ready_iff inspection acceptable).mp ready nationalDay ⟨by decide,by decide,by decide⟩
  exact absurd (autumn_bar.mp bar).1 (by decide)

end OpenStock.CurrentSymbol.Ohlcv
