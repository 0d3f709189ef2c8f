import Isomdl.Reference.Time

/-!
# Dates of a credential (`tdate.rs`, `fulldate.rs`)

A `tdate` is made canonical when it is parsed, a `full-date` when it is displayed.  Both leave out
years: the offset of a date-time may move it out of the years 0000 to 9999, where `unwrap` panics,
and a displayed year is not padded to four digits.

* `TDate.fromJson_canonical_iff`    the date-times that have a canonical text;
* `TDate.fromJson_offset_panics`    two that have none;
* `FullDate.display_roundTrips_iff`         the dates that are read back as they are displayed;
* `FullDate.early_year_unpadded`    one that is not.
-/

set_option linter.unusedSectionVars false

namespace Isomdl

open Cbor
open Calendar (digits readDigits utcText IsUtcText)

/-! ## `tdate.rs` -/

namespace TDate

section
variable [LawfulRfc3339]

theorem fromJson_string {s : String} {t : OffsetDateTime} (hparse : Rfc3339.parse s = .ok t) :
    (fromJson (.string s) : Parsed TDate) = ofDateTime t := by
  simp only [fromJson, ok_bind, hparse]

theorem ofDateTime_of_year {t : OffsetDateTime} (hyear : FourDigitYear t.unixSeconds) :
    ofDateTime t = .ok ⟨utcText t.unixSeconds⟩ := by
  simp only [ofDateTime, LawfulRfc3339.toOffsetUtc_eq, if_pos hyear.inRange,
    LawfulRfc3339.replaceMillisecond_zero, LawfulRfc3339.format_utc _ hyear]

theorem ofDateTime_of_not_year {t : OffsetDateTime} (hyear : ¬ FourDigitYear t.unixSeconds) :
    ofDateTime t = .error .panicked := by
  by_cases hrange : InRange t.unixSeconds
  · obtain ⟨e, he⟩ := LawfulRfc3339.format_year _ hyear
    simp only [ofDateTime, LawfulRfc3339.toOffsetUtc_eq, if_pos hrange,
      LawfulRfc3339.replaceMillisecond_zero, he]
  · simp only [ofDateTime, LawfulRfc3339.toOffsetUtc_eq, if_neg hrange]

/-- **What panics.** -/
theorem fromJson_eq_panicked_iff {v : Json} : (fromJson v : Parsed TDate) = .error .panicked ↔
    ∃ s t, v = .string s ∧ Rfc3339.parse s = .ok t ∧ ¬ FourDigitYear t.unixSeconds := by
  constructor
  · intro h
    cases v with
    | string s =>
      cases hparse : Rfc3339.parse s with
      | error e =>
        simp only [fromJson, ok_bind, hparse] at h
        cases h
      | ok t =>
        refine ⟨s, t, rfl, hparse, ?_⟩
        intro hyear
        rw [fromJson_string hparse, ofDateTime_of_year hyear] at h
        cases h
    | _ => cases h
  · rintro ⟨s, t, rfl, hparse, hyear⟩
    rw [fromJson_string hparse, ofDateTime_of_not_year hyear]

/-- the canonical text of a date-time that is accepted: a UTC date-time without a fraction, which
denotes the same whole second and is mapped to itself -/
def Canonical (s : String) (t : OffsetDateTime) : Prop :=
  ∃ td : TDate, (fromJson (.string s) : Parsed TDate) = .ok td ∧ IsUtcText td.text ∧
    Rfc3339.parse td.text = .ok ⟨t.unixSeconds, 0, 0⟩ ∧
    (fromJson (.string td.text) : Parsed TDate) = .ok td

theorem canonical_of_year {s : String} {t : OffsetDateTime} (hparse : Rfc3339.parse s = .ok t)
    (hyear : FourDigitYear t.unixSeconds) : Canonical s t := by
  have hagain := LawfulRfc3339.parse_utcText t.unixSeconds hyear
  refine ⟨⟨utcText t.unixSeconds⟩, ?_, Calendar.isUtcText_utcText _, hagain, ?_⟩
  · rw [fromJson_string hparse, ofDateTime_of_year hyear]
  · rw [fromJson_string hagain]
    exact ofDateTime_of_year hyear

/-- **Parsing is total and canonical exactly where the instant is in the years 0000 to 9999 in
UTC.** -/
theorem fromJson_canonical_iff (v : Json) :
    ((fromJson v : Parsed TDate) ≠ .error .panicked ∧
      ∀ s t, v = .string s → Rfc3339.parse s = .ok t → Canonical s t) ↔
    ∀ s t, v = .string s → Rfc3339.parse s = .ok t → FourDigitYear t.unixSeconds := by
  constructor
  · rintro ⟨htotal, -⟩ s t hv hparse
    by_contra hyear
    exact htotal (fromJson_eq_panicked_iff.mpr ⟨s, t, hv, hparse, hyear⟩)
  · intro h
    constructor
    · intro hpanic
      obtain ⟨s, t, hv, hparse, hyear⟩ := fromJson_eq_panicked_iff.mp hpanic
      exact hyear (h s t hv hparse)
    · exact fun s t hv hparse => canonical_of_year hparse (h s t hv hparse)

end

section
open Reference.Time

/-- the offset moves one into the year 10000 and the other into the year -1 -/
theorem fromJson_offset_panics :
    (fromJson (.string "9999-12-31T23:59:59-01:00") : Parsed TDate) = .error .panicked ∧
      (fromJson (.string "0000-01-01T00:00:00+01:00") : Parsed TDate) = .error .panicked := by
  have hafter : Rfc3339.parse "9999-12-31T23:59:59-01:00" = .ok ⟨253402304399, 0, -3600⟩ := by
    decide +kernel
  have hbefore : Rfc3339.parse "0000-01-01T00:00:00+01:00" = .ok ⟨-62167222800, 0, 3600⟩ := by
    decide +kernel
  rw [fromJson_string hafter, fromJson_string hbefore]
  exact ⟨ofDateTime_of_not_year (by decide +kernel), ofDateTime_of_not_year (by decide +kernel)⟩

end

end TDate

/-! ## `fulldate.rs` -/

namespace FullDate

/-- `dddd-dd-dd` -/
def IsFullDate (s : String) : Prop := ∃ year month day, DateDigits s.toList year month day

/-- the year of the text has no minus sign and its first digit is not a zero -/
def FourFigureYear (s : String) : Prop :=
  s.toList.head? ≠ some '-' ∧ (unsigned s.toList).head? ≠ some '0'

section
variable [FullDateFormat]

/-- `FromStr for FullDate` -/
def fromStr (s : String) : Except String FullDate := FullDate.mk <$> FullDateFormat.parse s

theorem fromStr_eq_ok_iff {s : String} {d : FullDate} :
    fromStr s = .ok d ↔ FullDateFormat.parse s = .ok d.date := by
  rw [fromStr]
  cases FullDateFormat.parse s with
  | error e =>
    constructor
    · intro h
      cases h
    · intro h
      cases h
  | ok date =>
    show Except.ok (FullDate.mk date) = .ok d ↔ _
    rw [Except.ok.injEq, Except.ok.injEq]
    constructor
    · rintro rfl
      rfl
    · rintro rfl
      rfl

/-- `from_json` is `from_str` on strings -/
theorem fromJson_of_fromStr {s : String} {d : FullDate} (h : fromStr s = .ok d) :
    (fromJson (.string s) : Parsed FullDate) = .ok d := by
  rw [fromStr_eq_ok_iff] at h
  simp only [fromJson, fromText, ok_bind, h]
  rfl

end

instance (s : String) : Decidable (FourFigureYear s) := inferInstanceAs (Decidable (_ ∧ _))

/-! ## digits and display -/

theorem unsigned_digits {ds : List Char} (hne : ds ≠ []) (h : ∀ c ∈ ds, c.isDigit = true)
    (rest : List Char) : unsigned (ds ++ rest) = ds ++ rest ∧ (ds ++ rest).head? ≠ some '-' := by
  cases ds with
  | nil => exact absurd rfl hne
  | cons c ds =>
    have hc := h c List.mem_cons_self
    rw [List.cons_append, unsigned.eq_3]
    · refine ⟨rfl, ?_⟩
      rw [List.head?_cons]
      rintro h
      cases h
      cases hc
    · rintro l h
      cases h
      cases hc
    · rintro l h
      cases h
      cases hc

theorem toList_twoDigits {n : Nat} (h : n < 100) : (twoDigits n).toList = digits 2 n := by
  have hall : ∀ n, n < 100 → (twoDigits n).toList = digits 2 n := by decide +kernel
  exact hall n h

theorem toList_display (d : FullDate) :
    d.display.toList = (toString d.date.year).toList ++ '-' ::
      ((twoDigits d.date.month).toList ++ '-' :: (twoDigits d.date.day).toList) := by
  simp [display, String.toList_append]

theorem day_le {d : Date} (h : d.Valid) : d.month < 100 ∧ d.day < 100 := by
  obtain ⟨hmonth, hmonth', hday, hday'⟩ := h
  have hdays : daysInMonth d.year d.month ≤ 31 := by
    unfold daysInMonth
    split
    · split
      · omega
      · omega
    · split
      · omega
      · omega
  omega

/-- **A date of the years 1000 to 9999 is displayed in ten characters.** -/
theorem dateDigits_display {d : FullDate} (hlow : 1000 ≤ d.date.year) (hhigh : d.date.year ≤ 9999)
    (hvalid : d.date.Valid) :
    DateDigits d.display.toList (digits 4 d.date.year.toNat) (digits 2 d.date.month)
      (digits 2 d.date.day) := by
  obtain ⟨hmonth, hday⟩ := day_le hvalid
  have hyear : (toString d.date.year).toList = digits 4 d.date.year.toNat := by
    rw [Int.toString_eq_repr, Int.repr_eq_if, if_pos (by omega), Nat.toList_repr]
    exact Calendar.toDigits_eq_digits (by omega) (by omega)
  refine ⟨?_, Calendar.length_digits 4 _, Calendar.length_digits 2 _, Calendar.length_digits 2 _,
    Calendar.isDigit_digits, Calendar.isDigit_digits, Calendar.isDigit_digits⟩
  rw [toList_display, hyear, toList_twoDigits hmonth, toList_twoDigits hday]

theorem reads_display {d : FullDate} (hlow : 1000 ≤ d.date.year) (hhigh : d.date.year ≤ 9999)
    (hvalid : d.date.Valid) : Date.Reads d.display d.date := by
  have hdigits := dateDigits_display hlow hhigh hvalid
  obtain ⟨hmonth, hday⟩ := day_le hvalid
  have hne : digits 4 d.date.year.toNat ≠ [] := by
    rw [← List.length_pos_iff, Calendar.length_digits]
    decide
  have hsign := unsigned_digits hne hdigits.year_digits
    ('-' :: (digits 2 d.date.month ++ '-' :: digits 2 d.date.day))
  rw [← hdigits.split] at hsign
  refine ⟨_, _, _, hsign.1.symm ▸ hdigits, ?_, hvalid⟩
  rw [signedYear, if_neg hsign.2, Calendar.readDigits_digits (by omega),
    Calendar.readDigits_digits hmonth, Calendar.readDigits_digits hday, Int.toNat_of_nonneg (by omega)]

theorem takeWhile_digits {ds rest : List Char} (h : ∀ c ∈ ds, c.isDigit = true) :
    (ds ++ '-' :: rest).takeWhile Char.isDigit = ds := by
  rw [List.takeWhile_append_of_pos h, List.takeWhile_cons_of_neg (by decide), List.append_nil]

/-- a year before 1000 is displayed with less than four digits, and one before 0 with a sign -/
theorem year_of_isFullDate {d : FullDate} (h : IsFullDate d.display) : 1000 ≤ d.date.year := by
  obtain ⟨year, month, day, hdigits⟩ := h
  have hsplit := hdigits.split
  rw [toList_display, Int.toString_eq_repr, Int.repr_eq_if] at hsplit
  split at hsplit
  · next hnonneg =>
    rw [Nat.toList_repr] at hsplit
    have hyear := congrArg (List.takeWhile Char.isDigit) hsplit
    rw [takeWhile_digits (fun c hc => Nat.isDigit_of_mem_toDigits (by decide) (by decide) hc),
      takeWhile_digits hdigits.year_digits] at hyear
    have hlength : (Nat.toDigits 10 d.date.year.toNat).length = 4 := by
      rw [hyear, hdigits.year_length]
    have hshort := Nat.length_toDigits_le_iff (n := d.date.year.toNat) (show 1 < 10 by decide)
      (show 0 < 3 by decide)
    omega
  · obtain ⟨-, hhead⟩ := unsigned_digits (List.ne_nil_of_length_eq_add_one hdigits.year_length)
      hdigits.year_digits ('-' :: (month ++ '-' :: day))
    rw [← hsplit, String.toList_append] at hhead
    exact absurd rfl hhead

/-- the value of four digits -/
theorem readDigits_four {year : List Char} (hlength : year.length = 4)
    (h : ∀ c ∈ year, c.isDigit = true) :
    readDigits year ≤ 9999 ∧ (1000 ≤ readDigits year ↔ year.head? ≠ some '0') := by
  obtain ⟨a, b, c, e, rfl⟩ := List.length_eq_four.mp hlength
  have ha := Calendar.toNat_of_isDigit (h a (by simp))
  have hb := Calendar.toNat_of_isDigit (h b (by simp))
  have hc := Calendar.toNat_of_isDigit (h c (by simp))
  have he := Calendar.toNat_of_isDigit (h e (by simp))
  have hvalue : readDigits [a, b, c, e] = 10 * (10 * (10 * (10 * 0 + (a.toNat - 48)) +
      (b.toNat - 48)) + (c.toNat - 48)) + (e.toNat - 48) := rfl
  have hzero : a = '0' ↔ a.toNat = 48 := by
    rw [← Char.toNat_inj]
    rfl
  rw [List.head?_cons, Ne, Option.some.injEq, hzero, hvalue]
  omega

/-- the years that a text can have -/
theorem year_of_reads {s : String} {d : Date} (h : Date.Reads s d) :
    d.year ≤ 9999 ∧ (1000 ≤ d.year ↔ FourFigureYear s) := by
  obtain ⟨year, month, day, hdigits, rfl, -⟩ := h
  obtain ⟨hhigh, hlow⟩ := readDigits_four hdigits.year_length hdigits.year_digits
  have hhead : (unsigned s.toList).head? = year.head? := by
    rw [hdigits.split, List.head?_append_of_ne_nil]
    exact List.ne_nil_of_length_eq_add_one hdigits.year_length
  show signedYear s.toList (readDigits year) ≤ 9999 ∧
    (1000 ≤ signedYear s.toList (readDigits year) ↔ _)
  rw [FourFigureYear, hhead, ← hlow, signedYear]
  by_cases hsign : s.toList.head? = some '-'
  · rw [if_pos hsign]
    have hfail : ¬ (s.toList.head? ≠ some '-' ∧ 1000 ≤ readDigits year) := fun h => h.1 hsign
    constructor
    · omega
    · constructor
      · omega
      · exact fun h => absurd h hfail
  · rw [if_neg hsign]
    constructor
    · omega
    · constructor
      · intro h
        exact ⟨hsign, by omega⟩
      · rintro ⟨-, h⟩
        omega

/-- **A date is read back as it is displayed exactly when its text has a year of four figures.** -/
theorem display_roundTrips_iff [LawfulFullDateFormat] {s : String} {d : FullDate}
    (h : fromStr s = .ok d) :
    (IsFullDate d.display ∧ fromStr d.display = .ok d ∧
      ∃ text, toCbor d = .tag 1004 (.text text) ∧
        (fromJson (.string text) : Parsed FullDate) = .ok d) ↔ FourFigureYear s := by
  have hreads : Date.Reads s d.date :=
    (LawfulFullDateFormat.parse_eq_ok_iff s d.date).mp (fromStr_eq_ok_iff.mp h)
  obtain ⟨hhigh, hlow⟩ := year_of_reads hreads
  obtain ⟨_, _, _, _, _, hvalid⟩ := hreads
  rw [← hlow]
  constructor
  · rintro ⟨hform, -⟩
    exact year_of_isFullDate hform
  · intro hyear
    have hagain : fromStr d.display = .ok d := by
      rw [fromStr_eq_ok_iff, LawfulFullDateFormat.parse_eq_ok_iff]
      exact reads_display hyear hhigh hvalid
    exact ⟨⟨_, _, _, dateDigits_display hyear hhigh hvalid⟩, hagain, d.display, rfl,
      fromJson_of_fromStr hagain⟩

section
open Reference.Time

theorem display_roundTrips_iff_leap_day : ∃ d : FullDate, fromStr "+2000-02-29" = .ok d ∧
    IsFullDate d.display ∧ fromStr d.display = .ok d ∧
      ∃ text, toCbor d = .tag 1004 (.text text) ∧
        (fromJson (.string text) : Parsed FullDate) = .ok d := by
  have h : fromStr "+2000-02-29" = .ok ⟨⟨2000, 2, 29⟩⟩ := fromStr_eq_ok_iff.mpr (by decide +kernel)
  have hyear : FourFigureYear "+2000-02-29" := by decide +kernel
  exact ⟨_, h, (display_roundTrips_iff h).mpr hyear⟩

/-- `0985-01-01` is displayed as `985-01-01` -/
theorem early_year_unpadded : fromStr "0985-01-01" = .ok ⟨⟨985, 1, 1⟩⟩ ∧
    FullDate.display ⟨⟨985, 1, 1⟩⟩ = "985-01-01" ∧ ¬ IsFullDate (FullDate.display ⟨⟨985, 1, 1⟩⟩) ∧
    ∀ d, fromStr (FullDate.display ⟨⟨985, 1, 1⟩⟩) ≠ .ok d := by
  have hdisplay : FullDate.display ⟨⟨985, 1, 1⟩⟩ = "985-01-01" := by decide +kernel
  refine ⟨fromStr_eq_ok_iff.mpr (by decide +kernel), hdisplay, ?_, ?_⟩
  · intro h
    have hyear : (1000 : Int) ≤ 985 := year_of_isFullDate h
    omega
  · intro d h
    rw [hdisplay, fromStr_eq_ok_iff] at h
    have hrefused : FullDateFormat.parse "985-01-01" = .error "the input could not be parsed" := by
      decide +kernel
    rw [hrefused] at h
    cases h

end

end FullDate

end Isomdl
