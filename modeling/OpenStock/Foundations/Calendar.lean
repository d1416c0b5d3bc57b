import OpenStock.Foundations.Text

namespace OpenStock.Calendar
open Text

def isLeap (year : Nat) : Bool := year % 4 == 0 && (year % 100 != 0 || year % 400 == 0)

def daysInMonth (year month : Nat) : Nat :=
  match month with
  | 2 => if isLeap year then 29 else 28
  | 4 | 6 | 9 | 11 => 30
  | _ => 31

-- `datetime.date` between MINYEAR and MAXYEAR.
structure Date where
  year : Nat
  month : Nat
  day : Nat
  yearBounded : 1 ≤ year ∧ year ≤ 9999
  monthBounded : 1 ≤ month ∧ month ≤ 12
  dayBounded : 1 ≤ day ∧ day ≤ daysInMonth year month
deriving DecidableEq

def mkDate (year month day : Nat) : Option Date :=
  if bounded : (1 ≤ year ∧ year ≤ 9999) ∧ (1 ≤ month ∧ month ≤ 12) ∧ 1 ≤ day ∧ day ≤ daysInMonth year month then
    some ⟨year,month,day,bounded.1,bounded.2.1,bounded.2.2⟩
  else none

theorem in_january : 1 ≤ 1 ∧ 1 ≤ 12 := by decide

-- A date that is written out; the first one where the numbers name none.
def Date.of (year month day : Nat) : Date := (mkDate year month day).getD ⟨1,1,1,by decide,in_january,by decide⟩

theorem in_2024 : 1 ≤ 2024 ∧ 2024 ≤ 9999 := by decide

theorem in_2026 : 1 ≤ 2026 ∧ 2026 ≤ 9999 := by decide

theorem in_march : 1 ≤ 3 ∧ 3 ≤ 12 := by decide

theorem in_july : 1 ≤ 7 ∧ 7 ≤ 12 := by decide

def daysBeforeYear (year : Nat) : Nat :=
  (year - 1) * 365 + (year - 1) / 4 - (year - 1) / 100 + (year - 1) / 400

def daysBeforeMonth (year month : Nat) : Nat :=
  ((List.range (month - 1)).map (fun earlier => daysInMonth year (earlier + 1))).sum

def Date.toOrdinal (date : Date) : Nat :=
  daysBeforeYear date.year + daysBeforeMonth date.year date.month + date.day

-- `date` comparison is the comparison of the (year, month, day) triples.
def Date.after (left right : Date) : Bool :=
  left.year > right.year || (left.year == right.year &&
    (left.month > right.month || (left.month == right.month && left.day > right.day)))

-- The digits of the calendar form read as one number; dates, and the texts of
-- their calendar forms, compare as these numbers do.
def Date.stamp (date : Date) : Nat := date.year * 10000 + date.month * 100 + date.day

theorem daysInMonth_le (year month : Nat) : daysInMonth year month ≤ 31 := by
  unfold daysInMonth
  split
  · split <;> decide
  all_goals decide

variable (date : Date)

theorem Date.fields : date.month ≤ 12 ∧ date.day ≤ 31 :=
  ⟨date.monthBounded.2,date.dayBounded.2.trans (daysInMonth_le _ _)⟩

theorem stamp_injective : Function.Injective Date.stamp := by
  intro left right same
  obtain ⟨monthLeft,dayLeft⟩ := left.fields
  obtain ⟨monthRight,dayRight⟩ := right.fields
  unfold Date.stamp at same
  have day : left.day = right.day := by omega
  have month : left.month = right.month := by omega
  have year : left.year = right.year := by omega
  cases left
  cases right
  simp only at year month day
  subst year month day
  rfl

instance : LinearOrder Date := LinearOrder.lift' Date.stamp stamp_injective

variable {left right : Date}

theorem stamp_lt : left < right ↔ left.stamp < right.stamp := Iff.rfl

theorem stamp_le : left ≤ right ↔ left.stamp ≤ right.stamp := Iff.rfl

def padded : Nat → Nat → Text
  | 0,_ => []
  | width + 1,value => padded width (value / 10) ++ [Nat.digitChar (value % 10)]

def readDigits (text : Text) : Option Nat :=
  if text.all Char.isDigit then some (Nat.ofDigitChars 10 text 0) else none

def Date.isoformat (date : Date) : Text :=
  padded 4 date.year ++ '-' :: (padded 2 date.month ++ '-' :: padded 2 date.day)

-- The ten-character calendar form.
def fromIsoformat : Text → Option Date
  | [y₁,y₂,y₃,y₄,'-',m₁,m₂,'-',d₁,d₂] => do
    let year ← readDigits [y₁,y₂,y₃,y₄]
    let month ← readDigits [m₁,m₂]
    let day ← readDigits [d₁,d₂]
    mkDate year month day
  | _ => none

-- A naive `datetime.time`, and a naive `datetime`.
structure TimeOfDay where
  hour : Nat
  minute : Nat
  second : Nat
  microsecond : Nat
  bounded : hour < 24 ∧ minute < 60 ∧ second < 60 ∧ microsecond < 1000000
deriving DecidableEq

structure DateTime where
  date : Date
  time : TimeOfDay
deriving DecidableEq

def mkTime (hour minute second microsecond : Nat) : Option TimeOfDay :=
  if bounded : hour < 24 ∧ minute < 60 ∧ second < 60 ∧ microsecond < 1000000 then
    some ⟨hour,minute,second,microsecond,bounded⟩
  else none

def TimeOfDay.midnight : TimeOfDay := ⟨0,0,0,0,by decide⟩

def TimeOfDay.last : TimeOfDay := ⟨23,59,59,999999,by decide⟩

def TimeOfDay.toMicroseconds (time : TimeOfDay) : Nat :=
  ((time.hour * 60 + time.minute) * 60 + time.second) * 1000000 + time.microsecond

-- Fractional seconds: any number of digits, those past the sixth dropped.
def microseconds (digits : Text) : Option Nat :=
  if digits.isEmpty then none else
  (readDigits digits).bind (fun _ => readDigits ((digits ++ List.replicate 6 '0').take 6))

def timeFromIsoformat : Text → Option TimeOfDay
  | h₁ :: h₂ :: rest => do
    let hour ← readDigits [h₁,h₂]
    match rest with
    | [] => mkTime hour 0 0 0
    | ':' :: m₁ :: m₂ :: rest => do
      let minute ← readDigits [m₁,m₂]
      match rest with
      | [] => mkTime hour minute 0 0
      | ':' :: s₁ :: s₂ :: rest => do
        let second ← readDigits [s₁,s₂]
        match rest with
        | [] => mkTime hour minute second 0
        | '.' :: fraction => do
          let microsecond ← microseconds fraction
          mkTime hour minute second microsecond
        | _ => none
      | _ => none
    | _ => none
  | _ => none

-- `datetime.fromisoformat` of a naive time: the ten-character date, alone or
-- followed by one separator and the time.
def DateTime.fromIsoformat (text : Text) : Option DateTime := do
  let date ← Calendar.fromIsoformat (text.take 10)
  match text.drop 10 with
  | [] => some ⟨date,.midnight⟩
  | _ :: time => do
    let time ← timeFromIsoformat time
    some ⟨date,time⟩

theorem digitChar_isDigit (small : n < 10) : (Nat.digitChar n).isDigit = true := by
  interval_cases n <;> decide

variable (width value : Nat)

theorem padded_digits : ∀ c ∈ padded width value, c.isDigit = true := by
  induction width generalizing value with
  | zero => simp [padded]
  | succ width ih =>
    intro c member
    rcases List.mem_append.mp member with earlier | last
    · exact ih _ c earlier
    · rw [List.mem_singleton.mp last]
      exact digitChar_isDigit (Nat.mod_lt _ (by decide))

theorem padded_value (start : Nat) :
    Nat.ofDigitChars 10 (padded width value) start = start * 10 ^ width + value % 10 ^ width := by
  induction width generalizing value with
  | zero => simp [padded,Nat.mod_one]
  | succ width ih =>
    have last : value % 10 < 10 := Nat.mod_lt _ (by decide)
    have split : value % 10 ^ (width + 1) = 10 * (value / 10 % 10 ^ width) + value % 10 := by
      rw [Nat.pow_succ',Nat.mod_mul,Nat.add_comm]
    rw [padded,Nat.ofDigitChars_append,ih,Nat.ofDigitChars_cons_digitChar_of_lt_ten last,
      Nat.ofDigitChars_nil,split,Nat.pow_succ]
    ring

theorem readDigits_padded (small : value < 10 ^ width) : readDigits (padded width value) = some value := by
  have digits : (padded width value).all Char.isDigit = true := List.all_eq_true.mpr (padded_digits width value)
  simp [readDigits,digits,padded_value,Nat.mod_eq_of_lt small]

theorem mkDate_date : mkDate date.year date.month date.day = some date :=
  dif_pos ⟨date.yearBounded,date.monthBounded,date.dayBounded⟩

theorem isoformat_chars : ∀ c ∈ date.isoformat, c.isDigit = true ∨ c = '-' := by
  intro c member
  simp only [Date.isoformat,List.mem_append,List.mem_cons] at member
  rcases member with digit | dash | digit | dash | digit
  · exact .inl (padded_digits _ _ c digit)
  · exact .inr dash
  · exact .inl (padded_digits _ _ c digit)
  · exact .inr dash
  · exact .inl (padded_digits _ _ c digit)

theorem isoformat_length : date.isoformat.length = 10 := by
  simp [Date.isoformat,padded]

theorem fromIsoformat_isoformat : fromIsoformat date.isoformat = some date := by
  have month : date.month < 10 ^ 2 := by have bound := date.monthBounded.2; omega
  have day : date.day < 10 ^ 2 := by
    have bound := date.dayBounded.2
    have cap := daysInMonth_le date.year date.month
    omega
  have year : date.year < 10 ^ 4 := by have bound := date.yearBounded.2; omega
  have readYear := readDigits_padded 4 date.year year
  have readMonth := readDigits_padded 2 date.month month
  have readDay := readDigits_padded 2 date.day day
  simp only [padded,List.nil_append,List.cons_append] at readYear readMonth readDay
  simp only [Date.isoformat,padded,List.nil_append,List.cons_append,fromIsoformat]
  rw [readYear,readMonth,readDay]
  exact mkDate_date date

theorem datetime_fromIsoformat_date : DateTime.fromIsoformat date.isoformat = some ⟨date,.midnight⟩ := by
  have whole : date.isoformat.take 10 = date.isoformat := List.take_of_length_le (by rw [isoformat_length])
  have rest : date.isoformat.drop 10 = [] := List.drop_of_length_le (by rw [isoformat_length])
  simp [DateTime.fromIsoformat,whole,rest,fromIsoformat_isoformat]

end OpenStock.Calendar
