import Isomdl.Time

/-!
# A concrete `time` crate

RFC 3339 date-times with any offset and any fraction of a second, without leap seconds, and dates
with an optional sign.

* `readDateTime_utcText`    what is written is read back;
* `readFullDate_eq_some`    the dates that are read are those of `Date.Reads`.
-/

namespace Isomdl

namespace Reference

namespace Time

open Calendar

/-! ## date-times -/

/-- an optional fraction of a second, in nanoseconds -/
def readFraction (l : List Char) : Option (Nat × List Char) :=
  match literal '.' l with
  | none => some (0, l)
  | some l =>
    let digits := l.takeWhile Char.isDigit
    if digits = [] then none
    else some (readDigits ((digits ++ List.replicate 9 '0').take 9), l.dropWhile Char.isDigit)

/-- `Z` or `±hh:mm`, in seconds, and nothing after it -/
def readOffset : List Char → Option Int
  | ['Z'] => some 0
  | ['z'] => some 0
  | c :: l => do
    let (hour, l) ← exactDigits 2 l
    let l ← literal ':' l
    let (minute, l) ← exactDigits 2 l
    let offset : Int := 3600 * hour + 60 * minute
    if 23 < hour ∨ 59 < minute ∨ l ≠ [] then none
    else if c = '+' then some offset
    else if c = '-' then some (-offset)
    else none
  | [] => none

/-- the date-time of its components -/
def dateTime (date : Civil) (hour minute second nanosecond : Nat) (offset : Int) :
    Option OffsetDateTime :=
  if civil (dayNumber date) = date ∧ hour < 24 ∧ minute < 60 ∧ second < 60 then
    some ⟨86400 * dayNumber date + 3600 * hour + 60 * minute + second - offset, nanosecond, offset⟩
  else none

def readDateTime (l : List Char) : Option OffsetDateTime := do
  let (year, l) ← exactDigits 4 l
  let l ← literal '-' l
  let (month, l) ← exactDigits 2 l
  let l ← literal '-' l
  let (day, l) ← exactDigits 2 l
  let l ← literal 'T' l
  let (hour, l) ← exactDigits 2 l
  let l ← literal ':' l
  let (minute, l) ← exactDigits 2 l
  let l ← literal ':' l
  let (second, l) ← exactDigits 2 l
  let (nanosecond, l) ← readFraction l
  let offset ← readOffset l
  dateTime ⟨year, month, day⟩ hour minute second nanosecond offset

/-- the date-time of a second, from the components of its text -/
theorem dateTime_utc {second : Int} (h : FourDigitYear second) :
    dateTime ⟨(civil (second / 86400)).year.toNat, (civil (second / 86400)).month.toNat,
        (civil (second / 86400)).day.toNat⟩
      ((second % 86400).toNat / 3600) ((second % 86400).toNat / 60 % 60)
      ((second % 86400).toNat % 60) 0 0 = some ⟨second, 0, 0⟩ := by
  have hmonth := civil_month_bounds (second / 86400)
  have hday := civil_day_bounds (second / 86400)
  have hyear : ((civil (second / 86400)).year.toNat : Int) = (civil (second / 86400)).year :=
    Int.toNat_of_nonneg h.1
  have hdate : (⟨(civil (second / 86400)).year.toNat, (civil (second / 86400)).month.toNat,
      (civil (second / 86400)).day.toNat⟩ : Civil) = civil (second / 86400) := by
    rw [hyear, Int.toNat_of_nonneg (by omega), Int.toNat_of_nonneg (by omega)]
  rw [hdate, dateTime, dayNumber_civil, if_pos ⟨rfl, by omega, by omega, by omega⟩]
  congr 2
  omega

/-- **What is written is read back.** -/
theorem readDateTime_utcText {second : Int} (h : FourDigitYear second) :
    readDateTime (utcText second).toList = some ⟨second, 0, 0⟩ := by
  have hmonth := civil_month_bounds (second / 86400)
  have hday := civil_day_bounds (second / 86400)
  have hyear := h.2
  rw [yearOf] at hyear
  rw [utcText, String.toList_ofList, utcChars, readDateTime]
  rw [exactDigits_digits (by omega)]
  simp only [Option.bind_eq_bind, Option.bind_some, literal_cons]
  rw [exactDigits_digits (by omega)]
  simp only [Option.bind_some, literal_cons]
  rw [exactDigits_digits (by omega)]
  simp only [Option.bind_some, literal_cons]
  rw [exactDigits_digits (by omega)]
  simp only [Option.bind_some, literal_cons]
  rw [exactDigits_digits (by omega)]
  simp only [Option.bind_some, literal_cons]
  rw [exactDigits_digits (by omega)]
  exact dateTime_utc h

/-- whole seconds in UTC -/
def formatUtc (t : OffsetDateTime) : Except String String :=
  if t.nanosecond ≠ 0 ∨ t.offsetSeconds ≠ 0 then .error "only whole seconds in UTC"
  else if FourDigitYear t.unixSeconds then .ok (utcText t.unixSeconds)
  else .error "The year component cannot be formatted into the requested format."

def parse (s : String) : Except String OffsetDateTime :=
  match readDateTime s.toList with
  | some t => .ok t
  | none => .error "the input could not be parsed"

theorem formatUtc_year (second : Int) (h : FourDigitYear second) :
    formatUtc ⟨second, 0, 0⟩ = .ok (utcText second) := by
  rw [formatUtc, if_neg (by simp), if_pos h]

theorem formatUtc_not_year (second : Int) (h : ¬ FourDigitYear second) :
    ∃ e, formatUtc ⟨second, 0, 0⟩ = .error e := by
  rw [formatUtc, if_neg (by simp), if_neg h]
  exact ⟨_, rfl⟩

theorem parse_utcText (second : Int) (h : FourDigitYear second) :
    parse (utcText second) = .ok ⟨second, 0, 0⟩ := by
  rw [parse, readDateTime_utcText h]

def replaceMillisecond (t : OffsetDateTime) (millisecond : Nat) : Except String OffsetDateTime :=
  if millisecond < 1000 then .ok { t with nanosecond := millisecond * 1000000 }
  else .error "millisecond must be in the range 0..=999"

def toOffsetUtc (t : OffsetDateTime) : Option OffsetDateTime :=
  if InRange t.unixSeconds then some { t with offsetSeconds := 0 } else none

scoped instance lawfulRfc3339 : LawfulRfc3339 where
  format := formatUtc
  parse := parse
  replaceMillisecond := replaceMillisecond
  toOffsetUtc := toOffsetUtc
  replaceMillisecond_zero _ := rfl
  toOffsetUtc_eq _ := rfl
  format_utc := formatUtc_year
  format_year := formatUtc_not_year
  parse_utcText := parse_utcText

/-! ## dates -/

def readFullDate (s : String) : Option Date := do
  let (year, l) ← exactDigits 4 (unsigned s.toList)
  let l ← literal '-' l
  let (month, l) ← exactDigits 2 l
  let l ← literal '-' l
  let (day, l) ← exactDigits 2 l
  let date : Date := ⟨signedYear s.toList year, month, day⟩
  if l = [] ∧ date.Valid then some date else none

theorem readFullDate_eq_some {s : String} {d : Date} : readFullDate s = some d ↔ Date.Reads s d := by
  rw [readFullDate]
  constructor
  · intro h
    obtain ⟨⟨year, l₁⟩, h₁, h⟩ := Option.bind_eq_some_iff.mp h
    obtain ⟨l₂, h₂, h⟩ := Option.bind_eq_some_iff.mp h
    obtain ⟨⟨month, l₃⟩, h₃, h⟩ := Option.bind_eq_some_iff.mp h
    obtain ⟨l₄, h₄, h⟩ := Option.bind_eq_some_iff.mp h
    obtain ⟨⟨day, l₅⟩, h₅, h⟩ := Option.bind_eq_some_iff.mp h
    obtain ⟨years, hyears, hyearLen, hyearDigits, rfl⟩ := exactDigits_eq_some.mp h₁
    obtain ⟨months, rfl, hmonthLen, hmonthDigits, rfl⟩ := exactDigits_eq_some.mp h₃
    obtain ⟨days, rfl, hdayLen, hdayDigits, rfl⟩ := exactDigits_eq_some.mp h₅
    rw [literal_eq_some] at h₂ h₄
    simp only at h
    split at h
    · next hend =>
      obtain ⟨hnil, hvalid⟩ := hend
      cases h
      refine ⟨years, months, days, ⟨?_, hyearLen, hmonthLen, hdayLen, hyearDigits, hmonthDigits,
        hdayDigits⟩, rfl, hvalid⟩
      rw [hyears, h₂, h₄, hnil, List.append_nil]
    · cases h
  · rintro ⟨years, months, days, hdigits, rfl, hvalid⟩
    have hday : exactDigits 2 (days ++ []) = some (readDigits days, []) :=
      exactDigits_append hdigits.day_length hdigits.day_digits
    rw [List.append_nil] at hday
    rw [hdigits.split, exactDigits_append hdigits.year_length hdigits.year_digits]
    simp only [Option.bind_eq_bind, Option.bind_some, literal_cons]
    rw [exactDigits_append hdigits.month_length hdigits.month_digits]
    simp only [Option.bind_some, literal_cons]
    rw [hday]
    exact if_pos ⟨rfl, hvalid⟩

def parseFullDate (s : String) : Except String Date :=
  match readFullDate s with
  | some d => .ok d
  | none => .error "the input could not be parsed"

theorem parseFullDate_eq_ok (s : String) (d : Date) : parseFullDate s = .ok d ↔ Date.Reads s d := by
  rw [← readFullDate_eq_some, parseFullDate]
  cases readFullDate s with
  | none => simp
  | some d' => simp

scoped instance lawfulFullDateFormat : LawfulFullDateFormat where
  parse := parseFullDate
  parse_eq_ok_iff := parseFullDate_eq_ok

end Time

end Reference

end Isomdl
