import Mathlib.Data.Prod.Lex
import OpenStock.Foundations.Calendar

namespace OpenStock.Calendar

-- The day after, and `date + timedelta(days=days)`: none past MAXYEAR.
def Date.tomorrow (date : Date) : Option Date :=
  if date.day < daysInMonth date.year date.month then mkDate date.year date.month (date.day + 1)
  else if date.month < 12 then mkDate date.year (date.month + 1) 1
  else mkDate (date.year + 1) 1 1

def Date.plusDays (date : Date) : Nat → Option Date
  | 0 => some date
  | days + 1 => (date.plusDays days).bind Date.tomorrow

-- Naive datetimes compare as the day, then the time within it.
def DateTime.key (instant : DateTime) : Date ×ₗ Nat := toLex (instant.date,instant.time.toMicroseconds)

theorem toMicroseconds_injective : Function.Injective TimeOfDay.toMicroseconds := by
  intro left right same
  have boundedLeft := left.bounded
  have boundedRight := right.bounded
  unfold TimeOfDay.toMicroseconds at same
  have microsecond : left.microsecond = right.microsecond := by omega
  have second : left.second = right.second := by omega
  have minute : left.minute = right.minute := by omega
  have hour : left.hour = right.hour := by omega
  cases left
  cases right
  simp only at microsecond second minute hour
  subst microsecond second minute hour
  rfl

theorem key_injective : Function.Injective DateTime.key := by
  intro left right same
  have pair := Prod.ext_iff.mp (toLex.injective same)
  have time : left.time = right.time := toMicroseconds_injective pair.2
  have date : left.date = right.date := pair.1
  cases left
  cases right
  simp only at date time
  subst date time
  rfl

instance : LinearOrder DateTime := LinearOrder.lift' DateTime.key key_injective

end OpenStock.Calendar
