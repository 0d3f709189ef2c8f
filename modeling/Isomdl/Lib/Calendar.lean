import Mathlib.Data.List.Basic
import Mathlib.Order.Lattice
import Mathlib.Algebra.Order.Group.Int
import Mathlib.Tactic.Ring

/-!
# Days, dates and their text

The proleptic Gregorian calendar on day numbers, day 0 being the first of January 1970, and the
text `YYYY-MM-DDTHH:MM:SSZ` of a second in UTC.

* `readDigits_digits`, `exactDigits_digits`   decimal digits of a fixed width;
* `toDigits_eq_digits`                        a number that needs no padding;
* `dayNumber_civil`                           a day number is that of its date;
* `isUtcText_utcText`                         the form of the text.
-/

namespace Calendar

/-! ## decimal digits of a fixed width -/

def digitChar (d : Nat) : Char := Char.ofNat (48 + d)

/-- the last `width` decimal digits of a number -/
def digits : Nat → Nat → List Char
  | 0, _ => []
  | width + 1, n => digits width (n / 10) ++ [digitChar (n % 10)]

def readDigits (l : List Char) : Nat := l.foldl (fun n c => 10 * n + (c.toNat - 48)) 0

theorem toNat_digitChar {d : Nat} (h : d < 10) : (digitChar d).toNat = 48 + d := by
  have hall : ∀ d, d < 10 → (digitChar d).toNat = 48 + d := by decide
  exact hall d h

theorem isDigit_digitChar {d : Nat} (h : d < 10) : (digitChar d).isDigit = true := by
  have hall : ∀ d, d < 10 → (digitChar d).isDigit = true := by decide
  exact hall d h

theorem toNat_of_isDigit {c : Char} (h : c.isDigit = true) : 48 ≤ c.toNat ∧ c.toNat ≤ 57 := by
  rw [Char.isDigit, Bool.and_eq_true, decide_eq_true_eq, decide_eq_true_eq] at h
  exact h

theorem length_digits (width n : Nat) : (digits width n).length = width := by
  induction width generalizing n with
  | zero => rfl
  | succ width ih => rw [digits, List.length_append, ih, List.length_singleton]

theorem isDigit_digits {width n : Nat} : ∀ c ∈ digits width n, c.isDigit = true := by
  induction width generalizing n with
  | zero => exact fun c hc => absurd hc List.not_mem_nil
  | succ width ih =>
    intro c hc
    rw [digits, List.mem_append, List.mem_singleton] at hc
    rcases hc with hc | rfl
    · exact ih c hc
    · exact isDigit_digitChar (Nat.mod_lt n (by decide))

/-- **A number is read from its digits.** -/
theorem readDigits_digits {width n : Nat} (h : n < 10 ^ width) : readDigits (digits width n) = n := by
  induction width generalizing n with
  | zero =>
    have hn : n = 0 := by simpa using h
    rw [hn]
    rfl
  | succ width ih =>
    have hlt : n / 10 < 10 ^ width := by
      rw [pow_succ] at h
      omega
    have hih := ih hlt
    rw [readDigits] at hih ⊢
    rw [digits, List.foldl_append, hih, List.foldl_cons, List.foldl_nil,
      toNat_digitChar (Nat.mod_lt n (by decide))]
    omega

/-- exactly `width` digits, and what comes after them -/
def exactDigits (width : Nat) (l : List Char) : Option (Nat × List Char) :=
  if (l.take width).length = width ∧ (l.take width).all Char.isDigit = true then
    some (readDigits (l.take width), l.drop width)
  else none

theorem exactDigits_append {width : Nat} {l rest : List Char} (hlen : l.length = width)
    (hl : ∀ c ∈ l, c.isDigit = true) :
    exactDigits width (l ++ rest) = some (readDigits l, rest) := by
  subst hlen
  rw [exactDigits, List.take_left, List.drop_left, if_pos ⟨rfl, List.all_eq_true.mpr hl⟩]

theorem exactDigits_digits {width n : Nat} (h : n < 10 ^ width) (rest : List Char) :
    exactDigits width (digits width n ++ rest) = some (n, rest) := by
  rw [exactDigits_append (length_digits width n) isDigit_digits, readDigits_digits h]

/-- `exactDigits` is the digits it reads -/
theorem exactDigits_eq_some {width n : Nat} {l rest : List Char} :
    exactDigits width l = some (n, rest) ↔
      ∃ ds, l = ds ++ rest ∧ ds.length = width ∧ (∀ c ∈ ds, c.isDigit = true) ∧ n = readDigits ds := by
  constructor
  · intro h
    rw [exactDigits] at h
    split at h
    · next hds =>
      cases h
      exact ⟨l.take width, (List.take_append_drop width l).symm, hds.1, List.all_eq_true.mp hds.2, rfl⟩
    · cases h
  · rintro ⟨ds, rfl, hlen, hds, rfl⟩
    exact exactDigits_append hlen hds

/-- **A number that begins with another digit than zero is written with as many digits.** -/
theorem toDigits_eq_digits {width n : Nat} (hlow : 10 ^ width ≤ n) (hhigh : n < 10 ^ (width + 1)) :
    Nat.toDigits 10 n = digits (width + 1) n := by
  have hdigit : ∀ d, d < 10 → Nat.digitChar d = digitChar d := by decide
  induction width generalizing n with
  | zero =>
    have hn : n < 10 := by simpa using hhigh
    rw [Nat.toDigits_of_lt_base hn, digits, Nat.mod_eq_of_lt hn, hdigit n hn]
    rfl
  | succ width ih =>
    rw [pow_succ] at hlow hhigh
    have hbase : 10 ≤ n := by
      have hpos : 0 < 10 ^ width := pow_pos (by omega) width
      omega
    rw [Nat.toDigits_of_base_le (by omega) hbase, ih (by omega) (by omega),
      hdigit _ (Nat.mod_lt n (by omega))]
    rfl

/-- one character, and what comes after it -/
def literal (c : Char) (l : List Char) : Option (List Char) :=
  if l.head? = some c then some l.tail else none

theorem literal_cons (c : Char) (rest : List Char) : literal c (c :: rest) = some rest := if_pos rfl

theorem literal_eq_some {c : Char} {l rest : List Char} : literal c l = some rest ↔ l = c :: rest := by
  constructor
  · intro h
    rw [literal] at h
    split at h
    · next hhead =>
      cases h
      exact (List.cons_head?_tail hhead).symm
    · cases h
  · rintro rfl
    exact literal_cons c rest

/-! ## dates -/

structure Civil where
  year : Int
  month : Int
  day : Int
  deriving DecidableEq, Repr

/-- the years of a 400-year cycle that begins in March, and the day of that year, counted from
March -/
def cycleYear (doe : Int) : Int × Int :=
  let c := min 3 (doe / 36524)
  let q := (doe - 36524 * c) / 1461
  let r := doe - 36524 * c - 1461 * q
  let a := min 3 (r / 365)
  (100 * c + 4 * q + a, r - 365 * a)

/-- the month of a day counted from March, where March is 0 -/
def monthFromMarch (doy : Int) : Int := (5 * doy + 2) / 153

/-- a date, from the year that begins in March, its month, where March is 0, and the day -/
def ofMarch (year month day : Int) : Civil where
  year := if month < 10 then year else year + 1
  month := if month < 10 then month + 3 else month - 9
  day := day

def Civil.marchYear (d : Civil) : Int := if 2 < d.month then d.year else d.year - 1
def Civil.marchMonth (d : Civil) : Int := if 2 < d.month then d.month - 3 else d.month + 9

/-- the days before a year that begins in March, and before a month of it -/
def daysBeforeYear (year : Int) : Int :=
  146097 * (year / 400) + 365 * (year % 400) + year % 400 / 4 - year % 400 / 100
def daysBeforeMonth (month : Int) : Int := (153 * month + 2) / 5

/-- the year that begins in March, and the day of it -/
def marchDay (day : Int) : Int × Int :=
  let cycle := cycleYear ((day + 719468) % 146097)
  (cycle.1 + 400 * ((day + 719468) / 146097), cycle.2)

/-- the date of a day number -/
def civil (day : Int) : Civil :=
  let (year, doy) := marchDay day
  ofMarch year (monthFromMarch doy) (doy - daysBeforeMonth (monthFromMarch doy) + 1)

/-- the day number of a date -/
def dayNumber (d : Civil) : Int :=
  daysBeforeYear d.marchYear + daysBeforeMonth d.marchMonth + d.day - 1 - 719468

/-- **What a year of a cycle is: the days before it, and the days in it.** -/
theorem cycleYear_spec {doe : Int} (h : 0 ≤ doe ∧ doe < 146097) :
    0 ≤ (cycleYear doe).1 ∧ (cycleYear doe).1 < 400 ∧
    0 ≤ (cycleYear doe).2 ∧ (cycleYear doe).2 ≤ 365 ∧
    doe = 365 * (cycleYear doe).1 + (cycleYear doe).1 / 4 - (cycleYear doe).1 / 100 +
      (cycleYear doe).2 := by
  have hc : ∃ c, c = min 3 (doe / 36524) := ⟨_, rfl⟩
  obtain ⟨c, hc⟩ := hc
  have hc0 : 0 ≤ c ∧ c ≤ 3 := by omega
  have hr : 0 ≤ doe - 36524 * c ∧ doe - 36524 * c ≤ 36524 := by omega
  obtain ⟨q, hq⟩ : ∃ q, q = (doe - 36524 * c) / 1461 := ⟨_, rfl⟩
  have hq0 : 0 ≤ q ∧ q ≤ 24 := by omega
  obtain ⟨r, hrdef⟩ : ∃ r, r = doe - 36524 * c - 1461 * q := ⟨_, rfl⟩
  have hr0 : 0 ≤ r ∧ r ≤ 1460 := by omega
  obtain ⟨a, ha⟩ : ∃ a, a = min 3 (r / 365) := ⟨_, rfl⟩
  have ha0 : 0 ≤ a ∧ a ≤ 3 := by omega
  have hy : cycleYear doe = (100 * c + 4 * q + a, r - 365 * a) := by
    rw [ha, hrdef, hq, hc]
    rfl
  rw [hy]
  have hd0 : 0 ≤ r - 365 * a ∧ r - 365 * a ≤ 365 := by omega
  have h4 : (100 * c + 4 * q + a) / 4 = 25 * c + q := by omega
  have h100 : (100 * c + 4 * q + a) / 100 = c := by omega
  refine ⟨by omega, by omega, hd0.1, hd0.2, ?_⟩
  rw [h4, h100]
  omega

theorem monthFromMarch_bounds {doy : Int} (h : 0 ≤ doy ∧ doy ≤ 365) :
    0 ≤ monthFromMarch doy ∧ monthFromMarch doy ≤ 11 := by
  unfold monthFromMarch
  omega

theorem marchYear_ofMarch {year month day : Int} (h : 0 ≤ month ∧ month ≤ 11) :
    (ofMarch year month day).marchYear = year := by
  by_cases hm : month < 10
  · simp only [ofMarch, Civil.marchYear, if_pos hm]
    rw [if_pos (by omega)]
  · simp only [ofMarch, Civil.marchYear, if_neg hm]
    rw [if_neg (by omega)]
    omega

theorem marchMonth_ofMarch {year month day : Int} (h : 0 ≤ month ∧ month ≤ 11) :
    (ofMarch year month day).marchMonth = month := by
  by_cases hm : month < 10
  · simp only [ofMarch, Civil.marchMonth, if_pos hm]
    rw [if_pos (by omega)]
    omega
  · simp only [ofMarch, Civil.marchMonth, if_neg hm]
    rw [if_neg (by omega)]
    omega

/-- the day of a year that begins in March, and where that year begins -/
theorem marchDay_spec (day : Int) :
    0 ≤ (marchDay day).2 ∧ (marchDay day).2 ≤ 365 ∧
      day + 719468 = daysBeforeYear (marchDay day).1 + (marchDay day).2 := by
  have hdoe : 0 ≤ (day + 719468) % 146097 ∧ (day + 719468) % 146097 < 146097 := by omega
  obtain ⟨hy0, hy1, hd0, hd1, hsum⟩ := cycleYear_spec hdoe
  refine ⟨hd0, hd1, ?_⟩
  show day + 719468 = daysBeforeYear ((cycleYear ((day + 719468) % 146097)).1 +
    400 * ((day + 719468) / 146097)) + (cycleYear ((day + 719468) % 146097)).2
  generalize (cycleYear ((day + 719468) % 146097)).1 = yoe at *
  generalize (cycleYear ((day + 719468) % 146097)).2 = doy at *
  have hdiv : (yoe + 400 * ((day + 719468) / 146097)) / 400 = (day + 719468) / 146097 := by omega
  have hmod : (yoe + 400 * ((day + 719468) / 146097)) % 400 = yoe := by omega
  unfold daysBeforeYear
  rw [hdiv, hmod]
  omega

/-- **A day number is that of its date.** -/
theorem dayNumber_civil (day : Int) : dayNumber (civil day) = day := by
  obtain ⟨hd0, hd1, hsum⟩ := marchDay_spec day
  have hm := monthFromMarch_bounds ⟨hd0, hd1⟩
  have hday : (civil day).day =
      (marchDay day).2 - daysBeforeMonth (monthFromMarch (marchDay day).2) + 1 := rfl
  have hciv : civil day = ofMarch (marchDay day).1 (monthFromMarch (marchDay day).2)
      (civil day).day := rfl
  rw [dayNumber, hday, hciv, marchYear_ofMarch hm, marchMonth_ofMarch hm]
  omega

/-! ## the years, months and days of a second -/

/-- the year of a second -/
def yearOf (second : Int) : Int := (civil (second / 86400)).year

theorem civil_month_bounds (day : Int) : 1 ≤ (civil day).month ∧ (civil day).month ≤ 12 := by
  obtain ⟨hd0, hd1, -⟩ := marchDay_spec day
  have hm := monthFromMarch_bounds ⟨hd0, hd1⟩
  have hmonth : (civil day).month = if monthFromMarch (marchDay day).2 < 10
      then monthFromMarch (marchDay day).2 + 3 else monthFromMarch (marchDay day).2 - 9 := rfl
  rw [hmonth]
  split
  · omega
  · omega

theorem civil_day_bounds (day : Int) : 1 ≤ (civil day).day ∧ (civil day).day ≤ 31 := by
  obtain ⟨hd0, hd1, -⟩ := marchDay_spec day
  have hday : (civil day).day =
      (marchDay day).2 - daysBeforeMonth (monthFromMarch (marchDay day).2) + 1 := rfl
  rw [hday]
  unfold daysBeforeMonth monthFromMarch
  omega

/-! ## the text of a second -/

/-- the characters of `YYYY-MM-DDTHH:MM:SSZ` -/
def utcChars (second : Int) : List Char :=
  let date := civil (second / 86400)
  let time := (second % 86400).toNat
  digits 4 date.year.toNat ++ '-' :: (digits 2 date.month.toNat ++ '-' ::
    (digits 2 date.day.toNat ++ 'T' :: (digits 2 (time / 3600) ++ ':' ::
      (digits 2 (time / 60 % 60) ++ ':' :: (digits 2 (time % 60) ++ ['Z'])))))

def utcText (second : Int) : String := String.ofList (utcChars second)

/-- a date-time in UTC with whole seconds: `dddd-dd-ddTdd:dd:ddZ` -/
def IsUtcText (s : String) : Prop :=
  ∃ year month day hour minute sec : List Char,
    s.toList = year ++ '-' :: (month ++ '-' :: (day ++ 'T' :: (hour ++ ':' :: (minute ++ ':' ::
      (sec ++ ['Z']))))) ∧
    year.length = 4 ∧ (∀ l ∈ [month, day, hour, minute, sec], l.length = 2) ∧
    ∀ l ∈ [year, month, day, hour, minute, sec], ∀ c ∈ l, c.isDigit = true

theorem isUtcText_utcText (second : Int) : IsUtcText (utcText second) := by
  refine ⟨_, _, _, _, _, _, String.toList_ofList, length_digits 4 _, ?_, ?_⟩
  · simp [length_digits]
  · intro l hl
    simp only [List.mem_cons, List.not_mem_nil, or_false] at hl
    rcases hl with rfl | rfl | rfl | rfl | rfl | rfl <;> exact isDigit_digits

end Calendar
