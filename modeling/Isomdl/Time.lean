import Isomdl.Definitions.Mso
import Isomdl.Lib.Calendar
import Isomdl.Namespaces.Elements

/-!
# The `time` crate

What is relied on where dates are written and read: RFC 3339 date-times on whole seconds in UTC,
and dates in the format `[year]-[month]-[day]`, where the year may have a sign.

* `LawfulRfc3339`           years of four digits are written and read back, others are not written;
* `Date.Reads`              the texts of a date;
* `LawfulFullDateFormat`    a date is parsed from its texts, and from nothing else.
-/

namespace Isomdl

open Calendar (yearOf utcText readDigits)

/-! ## date-times -/

/-- the second is in a year of four digits, in UTC -/
def FourDigitYear (second : Int) : Prop := 0 ≤ yearOf second ∧ yearOf second ≤ 9999

instance (second : Int) : Decidable (FourDigitYear second) :=
  inferInstanceAs (Decidable (_ ∧ _))

/-- the second is in the range of an `OffsetDateTime` in UTC -/
def InRange (second : Int) : Prop := -9999 ≤ yearOf second ∧ yearOf second ≤ 9999

instance (second : Int) : Decidable (InRange second) :=
  inferInstanceAs (Decidable (_ ∧ _))

theorem FourDigitYear.inRange {second : Int} (h : FourDigitYear second) : InRange second :=
  ⟨by have := h.1; omega, h.2⟩

class LawfulRfc3339 extends Rfc3339 where
  replaceMillisecond_zero (t : OffsetDateTime) : replaceMillisecond t 0 = .ok { t with nanosecond := 0 }
  /-- it panics where the date-time is out of range in the new offset -/
  toOffsetUtc_eq (t : OffsetDateTime) :
    toOffsetUtc t = if InRange t.unixSeconds then some { t with offsetSeconds := 0 } else none
  format_utc (second : Int) : FourDigitYear second → format ⟨second, 0, 0⟩ = .ok (utcText second)
  format_year (second : Int) : ¬ FourDigitYear second → ∃ e, format ⟨second, 0, 0⟩ = .error e
  parse_utcText (second : Int) : FourDigitYear second → parse (utcText second) = .ok ⟨second, 0, 0⟩

/-! ## dates -/

def IsLeap (year : Int) : Prop := year % 4 = 0 ∧ (year % 100 ≠ 0 ∨ year % 400 = 0)

instance (year : Int) : Decidable (IsLeap year) := inferInstanceAs (Decidable (_ ∧ _))

def daysInMonth (year : Int) (month : Nat) : Nat :=
  if month = 2 then if IsLeap year then 29 else 28
  else if month ∈ [4, 6, 9, 11] then 30 else 31

/-- a date of the calendar -/
def Date.Valid (d : Date) : Prop :=
  1 ≤ d.month ∧ d.month ≤ 12 ∧ 1 ≤ d.day ∧ d.day ≤ daysInMonth d.year d.month

instance (d : Date) : Decidable d.Valid := inferInstanceAs (Decidable (_ ∧ _))

/-- a text without the sign of its year -/
def unsigned : List Char → List Char
  | '+' :: l => l
  | '-' :: l => l
  | l => l

/-- a year with the sign that the text has -/
def signedYear (l : List Char) (year : Nat) : Int := if l.head? = some '-' then -year else year

/-- four digits, two digits and two digits -/
structure DateDigits (l year month day : List Char) : Prop where
  split : l = year ++ '-' :: (month ++ '-' :: day)
  year_length : year.length = 4
  month_length : month.length = 2
  day_length : day.length = 2
  year_digits : ∀ c ∈ year, c.isDigit = true
  month_digits : ∀ c ∈ month, c.isDigit = true
  day_digits : ∀ c ∈ day, c.isDigit = true

/-- the text is one of the date's -/
def Date.Reads (s : String) (d : Date) : Prop :=
  ∃ year month day, DateDigits (unsigned s.toList) year month day ∧
    d = ⟨signedYear s.toList (readDigits year), readDigits month, readDigits day⟩ ∧ d.Valid

class LawfulFullDateFormat extends FullDateFormat where
  parse_eq_ok_iff (s : String) (d : Date) : parse s = .ok d ↔ Date.Reads s d

end Isomdl
