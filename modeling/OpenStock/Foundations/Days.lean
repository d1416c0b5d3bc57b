import OpenStock.Foundations.Calendar

namespace OpenStock.Calendar

/- Days one after another: `date + timedelta(days=1)` and back, none where Python
raises OverflowError. -/

def Date.yesterday (date : Date) : Option Date :=
  if first : date.day = 1 then
    if january : date.month = 1 then
      if opening : date.year = 1 then none
      else some ⟨date.year - 1,12,31,by have bounds := date.yearBounded; omega,by decide,by simp [daysInMonth]⟩
    else some ⟨date.year,date.month - 1,daysInMonth date.year (date.month - 1),date.yearBounded,
      by have bounds := date.monthBounded; omega,by unfold daysInMonth; split <;> (try split) <;> decide,le_refl _⟩
  else some ⟨date.year,date.month,date.day - 1,date.yearBounded,date.monthBounded,by have bounds := date.dayBounded; omega⟩

def Date.dayAfter (date : Date) : Option Date :=
  if later : date.day < daysInMonth date.year date.month then
    some ⟨date.year,date.month,date.day + 1,date.yearBounded,date.monthBounded,by omega⟩
  else if month : date.month < 12 then
    some ⟨date.year,date.month + 1,1,date.yearBounded,by omega,
      by unfold daysInMonth; split <;> (try split) <;> decide⟩
  else if year : date.year < 9999 then
    some ⟨date.year + 1,1,1,by omega,in_january,by simp [daysInMonth]⟩
  else none

-- `date.weekday()`: Monday is 0.
def Date.weekday (date : Date) : Nat := (date.toOrdinal + 6) % 7

-- The day before is the greatest of the days before.
theorem yesterday_before {date before : Date} (found : date.yesterday = some before) :
    before < date ∧ ∀ other < date, other ≤ before := by
  have bounds := date.monthBounded
  unfold Date.yesterday at found
  simp only [stamp_lt,stamp_le,Date.stamp]
  split at found
  · rename_i first
    split at found
    · rename_i january
      split at found
      · cases found
      · rename_i opening
        cases found
        have years := date.yearBounded
        refine ⟨by simp only; omega,?_⟩
        intro other earlier
        have fields := other.fields
        have months := other.monthBounded
        have days := other.dayBounded
        simp only
        omega
    · rename_i january
      cases found
      have short := daysInMonth_le date.year (date.month - 1)
      refine ⟨by simp only; omega,?_⟩
      intro other earlier
      have fields := other.fields
      have days := other.dayBounded
      by_cases same : other.year = date.year ∧ other.month = date.month - 1
      · rw [same.1,same.2] at days
        simp only
        omega
      · simp only
        omega
  · cases found
    have days := date.dayBounded
    exact ⟨by simp only; omega,fun other earlier => by simp only; omega⟩

variable {date : Date}

theorem yesterday_none (first : date.yesterday = none) (other : Date) : date ≤ other := by
  have year := other.yearBounded
  have month := other.monthBounded
  have day := other.dayBounded
  unfold Date.yesterday at first
  simp only [stamp_le,Date.stamp]
  split at first
  · split at first
    · split at first
      · omega
      · cases first
    · cases first
  · cases first

-- The day after is the least of the days after.
theorem dayAfter_after {date next : Date} (found : date.dayAfter = some next) :
    date < next ∧ ∀ other, date < other → next ≤ other := by
  have fields := date.fields
  unfold Date.dayAfter at found
  simp only [stamp_lt,stamp_le,Date.stamp]
  split at found
  · cases found
    exact ⟨by simp only; omega,fun other later => by simp only; omega⟩
  · rename_i last
    split at found
    · rename_i month
      cases found
      refine ⟨by simp only; omega,?_⟩
      intro other later
      have bounds := other.monthBounded
      have days := other.dayBounded
      by_cases same : other.year = date.year ∧ other.month = date.month
      · rw [same.1,same.2] at days
        simp only
        omega
      · have others := other.fields
        simp only
        omega
    · split at found
      · cases found
        refine ⟨by simp only; omega,?_⟩
        intro other later
        have bounds := other.monthBounded
        have days := other.dayBounded
        by_cases same : other.year = date.year ∧ other.month = date.month
        · rw [same.1,same.2] at days
          simp only
          omega
        · have others := other.fields
          simp only
          omega
      · cases found

/- The days before a date, the latest first. -/

def Date.daysBack (date : Date) : List Date :=
  match _found : date.yesterday with
  | none => []
  | some before => before :: before.daysBack
termination_by date.stamp
decreasing_by exact stamp_lt.mp (yesterday_before _found).1

theorem daysBack_none (first : date.yesterday = none) : date.daysBack = [] := by
  rw [Date.daysBack]
  split
  · rfl
  · rename_i before found
    rw [first] at found
    cases found

theorem daysBack_some {date before : Date} (found : date.yesterday = some before) :
    date.daysBack = before :: before.daysBack := by
  rw [Date.daysBack]
  split
  · rename_i first
    rw [first] at found
    cases found
  · rename_i other same
    rw [found] at same
    cases same
    rfl

-- Well-founded induction along the days before.
theorem Date.induction_back {motive : Date → Prop} (first : ∀ date : Date, date.yesterday = none → motive date)
    (later : ∀ date before : Date, date.yesterday = some before → motive before → motive date) (date : Date) : motive date := by
  induction size : date.stamp using Nat.strong_induction_on generalizing date with
  | _ stamp ih =>
    cases found : date.yesterday with
    | none => exact first date found
    | some before => exact later date before found (ih before.stamp (size ▸ stamp_lt.mp (yesterday_before found).1) before rfl)

theorem mem_daysBack {date other : Date} : other ∈ date.daysBack ↔ other < date := by
  induction date using Date.induction_back with
  | first date found =>
    rw [daysBack_none found]
    exact ⟨(fun impossible => by cases impossible),fun earlier => absurd (yesterday_none found other) (not_le.mpr earlier)⟩
  | later date before found ih =>
    obtain ⟨earlier,greatest⟩ := yesterday_before found
    rw [daysBack_some found,List.mem_cons,ih]
    constructor
    · rintro (rfl | below)
      · exact earlier
      · exact below.trans earlier
    · intro below
      rcases (greatest other below).eq_or_lt with same | less
      · exact .inl same
      · exact .inr less

theorem daysBack_descending (date : Date) : date.daysBack.Pairwise (fun left right => right < left) := by
  induction date using Date.induction_back with
  | first date found =>
    rw [daysBack_none found]
    exact List.Pairwise.nil
  | later date before found ih =>
    rw [daysBack_some found]
    exact List.pairwise_cons.mpr ⟨fun other inside => mem_daysBack.mp inside,ih⟩

-- In a descending list a place is at or below a bound when no more than that many are above it.
theorem descending_nth {rows : List Date} (descending : rows.Pairwise (fun left right => right < left))
    (found : rows[place]? = some date) (bound : Date) :
    date ≤ bound ↔ (rows.filter (fun other => decide (bound < other))).length ≤ place := by
  induction rows generalizing place with
  | nil => cases found
  | cons head rows ih =>
    obtain ⟨leads,rest⟩ := List.pairwise_cons.mp descending
    by_cases above : bound < head
    · have split : ((head :: rows).filter (fun other => decide (bound < other))).length =
          (rows.filter (fun other => decide (bound < other))).length + 1 := by simp [above]
      rw [split]
      cases place with
      | zero =>
        cases found
        exact ⟨fun below => absurd below (not_le.mpr above),fun impossible => absurd impossible (Nat.not_succ_le_zero _)⟩
      | succ place => exact (ih rest found).trans Nat.succ_le_succ_iff.symm
    · have low := not_lt.mp above
      have none : (head :: rows).filter (fun other => decide (bound < other)) = [] := by
        apply List.filter_eq_nil_iff.mpr
        intro other inside later
        rcases List.mem_cons.mp inside with rfl | behind
        · exact above (of_decide_eq_true later)
        · exact above ((of_decide_eq_true later).trans (leads other behind))
      rw [none]
      refine ⟨fun _ => Nat.zero_le _,fun _ => ?_⟩
      rcases List.mem_cons.mp (List.mem_of_getElem? found) with rfl | behind
      · exact low
      · exact (leads date behind).le.trans low

end OpenStock.Calendar
