import OpenStock.Foundations.Days

namespace OpenStock.Ingestion
open Text Calendar

/- `ingestion/trading_calendar.py`, less the coverage window: neither `sessions` nor
`rewind_sessions` enforces it. -/

inductive CalendarError where
  | invalidSessionRange
  | invalidSessionOverlap
  | overflow

structure SessionRange where
  start : Date
  final : Date
  ordered : start ≤ final

def SessionRange.covers (range : SessionRange) (date : Date) : Prop := range.start ≤ date ∧ date ≤ range.final

instance (range : SessionRange) (date : Date) : Decidable (range.covers date) :=
  inferInstanceAs (Decidable (_ ∧ _))

def sessionRange (start final : Date) : Except CalendarError SessionRange :=
  if ordered : start ≤ final then .ok ⟨start,final,ordered⟩ else .error .invalidSessionRange

structure VietnamSessionCalendar where
  holidays : List Date
  version : Text

def VietnamSessionCalendar.isSession (calendar : VietnamSessionCalendar) (marketDate : Date) : Bool :=
  decide (marketDate.weekday < 5) && !calendar.holidays.contains marketDate

-- The loop of `sessions`; it steps past the last day before it stops.
def VietnamSessionCalendar.sessionsFrom (calendar : VietnamSessionCalendar) (current final : Date) :
    Except CalendarError (List Date) :=
  if current ≤ final then
    match _found : current.dayAfter with
    | none => .error .overflow
    | some next => (calendar.sessionsFrom next final).map (fun later =>
        if calendar.isSession current then current :: later else later)
  else .ok []
termination_by final.stamp + 1 - current.stamp
decreasing_by
  rename_i within
  have later := stamp_lt.mp (dayAfter_after _found).1
  have bound := stamp_le.mp within
  omega

def VietnamSessionCalendar.sessions (calendar : VietnamSessionCalendar) (range : SessionRange) :
    Except CalendarError (List Date) :=
  calendar.sessionsFrom range.start range.final

-- The loop of `rewind_sessions`, with the sessions that remain to be met.
def VietnamSessionCalendar.rewindFrom (calendar : VietnamSessionCalendar) (remaining : Nat) (current : Date) :
    Except CalendarError Date :=
  match remaining with
  | 0 => .ok current
  | more + 1 =>
    match _found : current.yesterday with
    | none => .error .overflow
    | some before => calendar.rewindFrom (if calendar.isSession before then more else more + 1) before
termination_by current.stamp
decreasing_by exact stamp_lt.mp (yesterday_before _found).1

def VietnamSessionCalendar.rewindSessions (calendar : VietnamSessionCalendar) (marketDate : Date) (sessionCount : Int) :
    Except CalendarError Date :=
  if sessionCount < 1 then .error .invalidSessionOverlap
  else calendar.rewindFrom (sessionCount - 1).toNat marketDate

theorem map_ok {ran : Except ε α} (done : ran.map f = .ok value) : ∃ inner, ran = .ok inner ∧ f inner = value := by
  cases ran with
  | error error => cases done
  | ok inner => exact ⟨inner,rfl,Except.ok.inj done⟩

section sessions
variable (calendar : VietnamSessionCalendar) {current final : Date}

theorem sessionsFrom_past (past : ¬current ≤ final) : calendar.sessionsFrom current final = .ok [] := by
  rw [VietnamSessionCalendar.sessionsFrom,if_neg past]

theorem sessionsFrom_next {current final next : Date} (within : current ≤ final) (found : current.dayAfter = some next) :
    calendar.sessionsFrom current final = (calendar.sessionsFrom next final).map (fun later =>
      if calendar.isSession current then current :: later else later) := by
  rw [VietnamSessionCalendar.sessionsFrom,if_pos within]
  split
  · rename_i last
    rw [found] at last
    cases last
  · rename_i other same
    rw [found] at same
    cases same
    rfl

theorem sessionsFrom_last (within : current ≤ final) (last : current.dayAfter = none) :
    calendar.sessionsFrom current final = .error .overflow := by
  rw [VietnamSessionCalendar.sessionsFrom,if_pos within]
  split
  · rfl
  · rename_i other same
    rw [last] at same
    cases same

-- The sessions of a range are its trading days.
theorem mem_sessionsFrom (done : calendar.sessionsFrom current final = .ok listed)
    (date : Date) : date ∈ listed ↔ calendar.isSession date = true ∧ current ≤ date ∧ date ≤ final := by
  induction left : final.stamp + 1 - current.stamp using Nat.strong_induction_on generalizing current listed with
  | _ days ih =>
    by_cases within : current ≤ final
    · cases found : current.dayAfter with
      | none =>
        rw [sessionsFrom_last calendar within found] at done
        cases done
      | some next =>
        obtain ⟨after,least⟩ := dayAfter_after found
        rw [sessionsFrom_next calendar within found] at done
        obtain ⟨later,rest,same⟩ := map_ok done
        have fewer : final.stamp + 1 - next.stamp < days := by
          have step := stamp_lt.mp after
          have bound := stamp_le.mp within
          omega
        have members := ih _ fewer rest rfl
        have split : current ≤ date ↔ date = current ∨ next ≤ date := by
          constructor
          · intro above
            rcases above.eq_or_lt with rfl | less
            · exact .inl rfl
            · exact .inr (least date less)
          · rintro (rfl | above)
            · exact le_refl _
            · exact after.le.trans above
        rw [← same,split]
        cases session : calendar.isSession current with
        | true =>
          simp only [if_true,List.mem_cons,members]
          constructor
          · rintro (rfl | ⟨trading,above,below⟩)
            · exact ⟨session,.inl rfl,within⟩
            · exact ⟨trading,.inr above,below⟩
          · rintro ⟨trading,rfl | above,below⟩
            · exact .inl rfl
            · exact .inr ⟨trading,above,below⟩
        | false =>
          simp only [Bool.false_eq_true,if_false,members]
          constructor
          · rintro ⟨trading,above,below⟩
            exact ⟨trading,.inr above,below⟩
          · rintro ⟨trading,rfl | above,below⟩
            · rw [session] at trading
              cases trading
            · exact ⟨trading,above,below⟩
    · rw [sessionsFrom_past calendar within] at done
      cases done
      refine ⟨(fun impossible => by cases impossible),?_⟩
      rintro ⟨_,above,below⟩
      exact absurd (above.trans below) within

/- Sessions before a day, the latest first. -/

def VietnamSessionCalendar.sessionsBack (date : Date) : List Date := date.daysBack.filter calendar.isSession

theorem mem_sessionsBack : other ∈ calendar.sessionsBack date ↔ other < date ∧ calendar.isSession other = true := by
  rw [VietnamSessionCalendar.sessionsBack,List.mem_filter,mem_daysBack]

theorem sessionsBack_descending (date : Date) : (calendar.sessionsBack date).Pairwise (fun left right => right < left) :=
  (daysBack_descending date).filter _

theorem sessionsBack_none (first : date.yesterday = none) : calendar.sessionsBack date = [] := by
  rw [VietnamSessionCalendar.sessionsBack,daysBack_none first,List.filter_nil]

theorem sessionsBack_some (found : date.yesterday = some before) : calendar.sessionsBack date =
      if calendar.isSession before then before :: calendar.sessionsBack before else calendar.sessionsBack before := by
  rw [VietnamSessionCalendar.sessionsBack,daysBack_some found,List.filter_cons]
  rfl

theorem rewindFrom_zero (current : Date) : calendar.rewindFrom 0 current = .ok current := by
  rw [VietnamSessionCalendar.rewindFrom]

theorem rewindFrom_first {current : Date} (first : current.yesterday = none) (more : Nat) :
    calendar.rewindFrom (more + 1) current = .error .overflow := by
  rw [VietnamSessionCalendar.rewindFrom]
  split
  · rfl
  · rename_i other same
    rw [first] at same
    cases same

theorem rewindFrom_step {current before : Date} (found : current.yesterday = some before) (more : Nat) :
    calendar.rewindFrom (more + 1) current =
      calendar.rewindFrom (if calendar.isSession before then more else more + 1) before := by
  rw [VietnamSessionCalendar.rewindFrom]
  split
  · rename_i none
    rw [found] at none
    cases none
  · rename_i other same
    rw [found] at same
    cases same
    rfl

-- Rewinding finds the sessions one after another.
theorem rewindFrom_back (remaining : Nat) (current : Date) : calendar.rewindFrom remaining current = match remaining with
      | 0 => .ok current
      | more + 1 => match (calendar.sessionsBack current)[more]? with
        | none => .error .overflow
        | some session => .ok session := by
  induction current using Date.induction_back generalizing remaining with
  | first current found =>
    cases remaining with
    | zero => exact rewindFrom_zero calendar current
    | succ more =>
      rw [rewindFrom_first calendar found,sessionsBack_none calendar found]
      rfl
  | later current before found ih =>
    cases remaining with
    | zero => exact rewindFrom_zero calendar current
    | succ more =>
      rw [rewindFrom_step calendar found,ih,sessionsBack_some calendar found]
      cases session : calendar.isSession before with
      | true => cases more <;> rfl
      | false => rfl

-- The sessions strictly between two days.
def VietnamSessionCalendar.sessionsBetween (low high : Date) : Nat :=
  ((calendar.sessionsBack high).filter (fun session => decide (low < session))).length

variable {calendar}

theorem between_none (ordered : high ≤ low) : calendar.sessionsBetween low high = 0 := by
  rw [VietnamSessionCalendar.sessionsBetween,List.length_eq_zero_iff,List.filter_eq_nil_iff]
  intro session inside above
  exact absurd (((mem_sessionsBack calendar).mp inside).1.trans_le ordered) (not_lt.mpr (of_decide_eq_true above).le)

-- A session between takes its place from the count.
theorem between_less (trading : calendar.isSession session = true) (above : low < session)
    (below : session < high) : calendar.sessionsBetween session high < calendar.sessionsBetween low high := by
  have nested : (calendar.sessionsBack high).filter (fun other => decide (session < other)) =
      ((calendar.sessionsBack high).filter (fun other => decide (low < other))).filter (fun other => decide (session < other)) := by
    rw [List.filter_filter]
    apply List.filter_congr
    intro other _
    by_cases later : session < other
    · simp [later,above.trans later]
    · simp [later]
  rw [VietnamSessionCalendar.sessionsBetween,VietnamSessionCalendar.sessionsBetween,nested]
  refine List.length_filter_lt_length_iff_exists.mpr ⟨session,?_,by simp⟩
  exact List.mem_filter.mpr ⟨(mem_sessionsBack calendar).mpr ⟨below,trading⟩,decide_eq_true above⟩

variable {remaining : Nat}

-- A rewound day is at or before a bound when too few sessions lie after it.
theorem rewind_le {current start : Date} (done : calendar.rewindFrom remaining current = .ok start) (bound : Date) :
    start ≤ bound ↔ current ≤ bound ∨ calendar.sessionsBetween bound current < remaining := by
  rw [rewindFrom_back] at done
  cases remaining with
  | zero =>
    cases done
    exact ⟨.inl,fun either => either.resolve_right (Nat.not_lt_zero _)⟩
  | succ more =>
    simp only at done
    split at done
    · cases done
    · rename_i session found
      cases done
      have counted := descending_nth (sessionsBack_descending calendar current) found bound
      rw [counted,← VietnamSessionCalendar.sessionsBetween,← Nat.lt_succ_iff]
      constructor
      · exact .inr
      · rintro (early | few)
        · rw [between_none early]
          exact Nat.succ_pos more
        · exact few

-- The session that one more step would reach lies before a rewound day.
theorem rewind_next {current start missed : Date} (done : calendar.rewindFrom remaining current = .ok start)
    (next : (calendar.sessionsBack current)[remaining]? = some missed) : missed < start := by
  rw [rewindFrom_back] at done
  obtain ⟨inside,placed⟩ := List.getElem?_eq_some_iff.mp next
  cases remaining with
  | zero =>
    cases done
    exact ((mem_sessionsBack calendar).mp (List.mem_of_getElem? next)).1
  | succ more =>
    simp only at done
    split at done
    · cases done
    · rename_i session found
      cases done
      obtain ⟨earlier,same⟩ := List.getElem?_eq_some_iff.mp found
      rw [← same,← placed]
      exact List.pairwise_iff_getElem.mp (sessionsBack_descending calendar current) more (more + 1) earlier inside (Nat.lt_succ_self more)

end sessions
end OpenStock.Ingestion
