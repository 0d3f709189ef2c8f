import Isomdl.Decoding
import Isomdl.Reference
import Isomdl.Reference.Time

/-!
# Validity information and its normal form (`definitions/validity_info.rs`)

A date is decoded with any offset and any fraction of a second; it is encoded in UTC with whole
seconds.  The conversion leaves the dates that the format can write when the offset moves an
instant out of the years 0000 to 9999.

* `dateOf_iff`              the instants that a decoded value has are those of its entries;
* `encode_eq_ok_iff`        encoding, date by date;
* `HasNormalForm`           what it is to have a normal form;
* `hasNormalForm_iff`       a decoded value has one exactly when its dates are in those years;
* `offset_leaves_years`     two values that have none.
-/

set_option linter.unusedSectionVars false

namespace Isomdl

open Cbor
open Calendar (yearOf utcText IsUtcText)

namespace ValidityInfo

/-! ## encoding -/

/-- the same instants without their fractions, in UTC -/
def truncated (v : ValidityInfo) : ValidityInfo where
  signed := ⟨v.signed.unixSeconds, 0, 0⟩
  validFrom := ⟨v.validFrom.unixSeconds, 0, 0⟩
  validUntil := ⟨v.validUntil.unixSeconds, 0, 0⟩
  expectedUpdate := v.expectedUpdate.map fun t => ⟨t.unixSeconds, 0, 0⟩

/-- the dates are in years of four digits -/
def InYears (v : ValidityInfo) : Prop := ∀ date ∈ v.dates, FourDigitYear date.2.unixSeconds

/-- the entries of an encoding -/
def utcEntries (v : ValidityInfo) : List (Value × Value) :=
  v.dates.map fun date => (.text date.1, .tag 0 (.text (utcText date.2.unixSeconds)))

section
variable [LawfulRfc3339]

/-- a date in the range of the crate is formatted in UTC -/
theorem insertDate_of_range {date : String × OffsetDateTime} (h : InRange date.2.unixSeconds) :
    insertDate date = (Rfc3339.format ⟨date.2.unixSeconds, 0, 0⟩).mapError .failed >>= fun s =>
      .ok (.text date.1, .tag 0 (.text s)) := by
  simp only [insertDate, LawfulRfc3339.replaceMillisecond_zero, Except.mapError, ok_bind,
    LawfulRfc3339.toOffsetUtc_eq, if_pos h]

theorem insertDate_of_year {date : String × OffsetDateTime}
    (h : FourDigitYear date.2.unixSeconds) :
    insertDate date = .ok (.text date.1, .tag 0 (.text (utcText date.2.unixSeconds))) := by
  rw [insertDate_of_range h.inRange, LawfulRfc3339.format_utc _ h]
  rfl

/-- outside of the years 0000 to 9999 there is an error or a panic -/
theorem insertDate_of_not_year {date : String × OffsetDateTime}
    (h : ¬ FourDigitYear date.2.unixSeconds) : ∃ stop, insertDate date = .error stop := by
  by_cases hrange : InRange date.2.unixSeconds
  · obtain ⟨e, he⟩ := LawfulRfc3339.format_year _ h
    rw [insertDate_of_range hrange, he]
    exact ⟨_, rfl⟩
  · refine ⟨.panicked, ?_⟩
    simp only [insertDate, LawfulRfc3339.replaceMillisecond_zero, Except.mapError, ok_bind,
      LawfulRfc3339.toOffsetUtc_eq, if_neg hrange]

theorem mapM_insertDate_eq_ok_iff {l : List (String × OffsetDateTime)}
    {entries : List (Value × Value)} :
    l.mapM insertDate = .ok entries ↔ (∀ date ∈ l, FourDigitYear date.2.unixSeconds) ∧
      entries = l.map fun date => (.text date.1, .tag 0 (.text (utcText date.2.unixSeconds))) := by
  induction l generalizing entries with
  | nil =>
    show Except.ok [] = .ok entries ↔ _
    simp [eq_comm]
  | cons date l ih =>
    rw [List.forall_mem_cons, List.mapM_cons, List.map_cons]
    by_cases hyear : FourDigitYear date.2.unixSeconds
    · rw [insertDate_of_year hyear, ok_bind]
      constructor
      · intro h
        obtain ⟨rest, hrest, h⟩ := bind_eq_ok h
        cases h
        obtain ⟨hyears, hentries⟩ := ih.mp hrest
        exact ⟨⟨hyear, hyears⟩, by rw [hentries]⟩
      · rintro ⟨⟨-, hyears⟩, rfl⟩
        rw [ih.mpr ⟨hyears, rfl⟩]
        rfl
    · obtain ⟨stop, hstop⟩ := insertDate_of_not_year hyear
      rw [hstop]
      constructor
      · intro h
        cases h
      · exact fun h => absurd h.1.1 hyear

/-- **What an encoding is.** -/
theorem encode_eq_ok_iff {v : ValidityInfo} {encoded : Value} :
    v.encode = .ok encoded ↔ v.InYears ∧ encoded = .map v.utcEntries := by
  constructor
  · intro h
    obtain ⟨entries, hentries, hencoded⟩ := map_eq_ok h
    obtain ⟨hyears, rfl⟩ := mapM_insertDate_eq_ok_iff.mp hentries
    exact ⟨hyears, hencoded.symm⟩
  · rintro ⟨hyears, rfl⟩
    rw [encode, mapM_insertDate_eq_ok_iff.mpr ⟨hyears, rfl⟩]
    rfl

/-- what the serializer writes, where encoding does not stop -/
theorem toValue_of_years {v : ValidityInfo} (h : v.InYears) :
    toValue v = .ok (.map v.utcEntries) := by
  show v.encode.mapError EncodeStop.message = _
  rw [encode_eq_ok_iff.mpr ⟨h, rfl⟩]
  rfl

/-! ## decoding -/

/-- the last entry with a name -/
abbrev lastNamed? : List (Value × Value) → String → Option Value := BTreeMap.lastBy Value.text?

theorem textKeys_forall₂ {entries : List (Value × Value)} {out : List (String × Value)}
    (h : textKeys entries = .ok out) :
    List.Forall₂ (fun e o => e.1.text? = some o.1 ∧ e.2 = o.2) entries out := by
  induction entries generalizing out with
  | nil =>
    cases h
    exact .nil
  | cons entry entries ih =>
    obtain ⟨a, v⟩ := entry
    rw [textKeys] at h
    cases ha : a.text? with
    | none =>
      rw [ha] at h
      cases h
    | some s =>
      rw [ha] at h
      obtain ⟨rest, hrest, h⟩ := bind_eq_ok h
      cases h
      exact .cons ⟨ha, rfl⟩ (ih hrest)

theorem cborToDatetime_eq_ok_iff {value : Value} {t : OffsetDateTime} :
    cborToDatetime value = .ok t ↔ ∃ s, value = .tag 0 (.text s) ∧ Rfc3339.parse s = .ok t := by
  constructor
  · intro h
    unfold cborToDatetime at h
    split at h
    · next s => exact ⟨s, rfl, h⟩
    · cases h
    · cases h
  · rintro ⟨s, rfl, h⟩
    exact h

theorem extractDate_eq_ok_iff {map : BTreeMap String Value} {name : String} {t : OffsetDateTime} :
    extractDate map name = .ok t ↔
      ∃ s, map[name]? = some (.tag 0 (.text s)) ∧ Rfc3339.parse s = .ok t := by
  rw [extractDate]
  cases map[name]? with
  | none => simp
  | some value =>
    show cborToDatetime value = .ok t ↔ _
    rw [cborToDatetime_eq_ok_iff]
    simp

/-- the names of the dates -/
def dateNames : List String := ["signed", "validFrom", "validUntil", "expectedUpdate"]

/-- the instant that an entry of the value denotes, where the last entry with its name counts -/
def DateOf (value : Value) (name : String) (t : OffsetDateTime) : Prop :=
  ∃ entries s, value = .map entries ∧ lastNamed? entries name = some (.tag 0 (.text s)) ∧
    Rfc3339.parse s = .ok t

/-- what `expectedUpdate` reads as -/
def optionalDate (map : BTreeMap String Value) : Except String (Option OffsetDateTime) :=
  match map["expectedUpdate"]? with
  | none => .ok none
  | some v => some <$> cborToDatetime v

/-- the dates of the entries that `extract_date!` takes out of the map -/
def ofEntries (map : BTreeMap String Value) : Except String ValidityInfo := do
  let signed ← extractDate map "signed"
  let validFrom ← extractDate map "validFrom"
  let validUntil ← extractDate map "validUntil"
  let expectedUpdate ← optionalDate map
  .ok { signed, validFrom, validUntil, expectedUpdate }

theorem ofValue_map (entries : List (Value × Value)) :
    (ofValue (.map entries) : Except String ValidityInfo) =
      textKeys entries >>= fun out => ofEntries (Std.ExtTreeMap.ofList out compare) := by
  show (textKeys entries >>= _) = _
  congr 1
  funext out
  show (extractDate (Std.ExtTreeMap.ofList out compare) "signed" >>= _) = _
  congr 1
  funext signed
  congr 1
  funext validFrom
  congr 1
  funext validUntil
  rw [optionalDate]
  cases (Std.ExtTreeMap.ofList out compare : BTreeMap String Value)["expectedUpdate"]? with
  | none => rfl
  | some v => rfl

theorem ofEntries_ok {map : BTreeMap String Value} {signed validFrom validUntil : OffsetDateTime}
    {expectedUpdate : Option OffsetDateTime} (hs : extractDate map "signed" = .ok signed)
    (hf : extractDate map "validFrom" = .ok validFrom)
    (hu : extractDate map "validUntil" = .ok validUntil)
    (he : optionalDate map = .ok expectedUpdate) :
    ofEntries map = .ok { signed, validFrom, validUntil, expectedUpdate } := by
  rw [ofEntries, hs, ok_bind, hf, ok_bind, hu, ok_bind, he]
  rfl

theorem optionalDate_eq_ok {map : BTreeMap String Value} {o : Option OffsetDateTime}
    (h : optionalDate map = .ok o) (t : OffsetDateTime) :
    extractDate map "expectedUpdate" = .ok t ↔ o = some t := by
  rw [optionalDate] at h
  rw [extractDate]
  cases hget : map["expectedUpdate"]? with
  | none =>
    rw [hget] at h
    cases h
    constructor
    · intro h
      cases h
    · intro h
      cases h
  | some value =>
    rw [hget] at h
    obtain ⟨u, hu, rfl⟩ := map_eq_ok h
    show cborToDatetime value = .ok t ↔ _
    rw [hu, Except.ok.injEq, Option.some.injEq]

/-- **The entries of a value that is decoded, and its dates.** -/
theorem dateOf_iff {value : Value} {v : ValidityInfo}
    (h : (ofValue value : Except String ValidityInfo) = .ok v) {name : String}
    (hname : name ∈ dateNames) {t : OffsetDateTime} :
    DateOf value name t ↔ (name, t) ∈ v.dates := by
  cases value with
  | map entries =>
    rw [ofValue_map] at h
    obtain ⟨out, hout, h⟩ := bind_eq_ok h
    rw [ofEntries] at h
    obtain ⟨signed, hs, h⟩ := bind_eq_ok h
    obtain ⟨validFrom, hf, h⟩ := bind_eq_ok h
    obtain ⟨validUntil, hu, h⟩ := bind_eq_ok h
    obtain ⟨expectedUpdate, he, h⟩ := bind_eq_ok h
    cases h
    have hdate : DateOf (.map entries) name t ↔
        extractDate (Std.ExtTreeMap.ofList out compare) name = .ok t := by
      rw [extractDate_eq_ok_iff, BTreeMap.getElem?_ofList_eq_lastBy (textKeys_forall₂ hout)]
      constructor
      · rintro ⟨_, s, heq, hlast, hparse⟩
        cases heq
        exact ⟨s, hlast, hparse⟩
      · rintro ⟨s, hlast, hparse⟩
        exact ⟨entries, s, rfl, hlast, hparse⟩
    rw [hdate]
    simp only [dateNames, List.mem_cons, List.not_mem_nil, or_false] at hname
    rcases hname with rfl | rfl | rfl | rfl
    · rw [hs]
      simp [dates, eq_comm]
    · rw [hf]
      simp [dates, eq_comm]
    · rw [hu]
      simp [dates, eq_comm]
    · rw [optionalDate_eq_ok he]
      simp [dates]
  | _ => cases h

/-! ## the normal form -/

theorem textKeys_utcEntries (l : List (String × OffsetDateTime)) :
    textKeys (l.map fun date => (.text date.1, .tag 0 (.text (utcText date.2.unixSeconds)))) =
      .ok (l.map fun date => (date.1, .tag 0 (.text (utcText date.2.unixSeconds)))) := by
  induction l with
  | nil => rfl
  | cons date l ih =>
    show (textKeys _ >>= fun rest => _) = _
    rw [ih]
    rfl

theorem extractDate_of_last {l : List (String × Value)} {name : String} {second : Int}
    (hlast : BTreeMap.last? l name = some (.tag 0 (.text (utcText second))))
    (hyear : FourDigitYear second) :
    extractDate (Std.ExtTreeMap.ofList l compare) name = .ok ⟨second, 0, 0⟩ := by
  rw [extractDate_eq_ok_iff, BTreeMap.getElem?_ofList_eq_last?]
  exact ⟨_, hlast, LawfulRfc3339.parse_utcText second hyear⟩

theorem optionalDate_of_last {l : List (String × Value)} {second : Int}
    (hlast : BTreeMap.last? l "expectedUpdate" = some (.tag 0 (.text (utcText second))))
    (hyear : FourDigitYear second) :
    optionalDate (Std.ExtTreeMap.ofList l compare) = .ok (some ⟨second, 0, 0⟩) := by
  have hparse : cborToDatetime (.tag 0 (.text (utcText second))) = .ok ⟨second, 0, 0⟩ :=
    LawfulRfc3339.parse_utcText second hyear
  rw [optionalDate, BTreeMap.getElem?_ofList_eq_last?, hlast]
  show some <$> cborToDatetime _ = _
  rw [hparse]
  rfl

theorem optionalDate_of_none {l : List (String × Value)}
    (hlast : BTreeMap.last? l "expectedUpdate" = none) :
    optionalDate (Std.ExtTreeMap.ofList l compare) = .ok none := by
  rw [optionalDate, BTreeMap.getElem?_ofList_eq_last?, hlast]

/-- **An encoding is decoded as the same instants, without their fractions.** -/
theorem ofValue_utcEntries {v : ValidityInfo} (h : v.InYears) :
    (ofValue (.map v.utcEntries) : Except String ValidityInfo) = .ok v.truncated := by
  obtain ⟨signed, validFrom, validUntil, expectedUpdate⟩ := v
  have hs := h ("signed", signed) (by simp [dates])
  have hf := h ("validFrom", validFrom) (by simp [dates])
  have hu := h ("validUntil", validUntil) (by simp [dates])
  rw [ofValue_map, utcEntries, textKeys_utcEntries, ok_bind]
  cases expectedUpdate with
  | none =>
    exact ofEntries_ok (extractDate_of_last rfl hs) (extractDate_of_last rfl hf)
      (extractDate_of_last rfl hu) (optionalDate_of_none rfl)
  | some t =>
    have ht := h ("expectedUpdate", t) (by simp [dates])
    exact ofEntries_ok (extractDate_of_last rfl hs) (extractDate_of_last rfl hf)
      (extractDate_of_last rfl hu) (optionalDate_of_last rfl ht)

theorem dates_truncated (v : ValidityInfo) :
    v.truncated.dates = v.dates.map fun date => (date.1, ⟨date.2.unixSeconds, 0, 0⟩) := by
  obtain ⟨signed, validFrom, validUntil, expectedUpdate⟩ := v
  cases expectedUpdate with
  | none => rfl
  | some t => rfl

theorem inYears_truncated {v : ValidityInfo} (h : v.InYears) : v.truncated.InYears := by
  intro date hdate
  rw [dates_truncated] at hdate
  obtain ⟨original, horiginal, rfl⟩ := List.mem_map.mp hdate
  exact h original horiginal

theorem utcEntries_truncated (v : ValidityInfo) : v.truncated.utcEntries = v.utcEntries := by
  rw [utcEntries, dates_truncated, List.map_map]
  rfl

theorem plain_utcEntries (v : ValidityInfo) : (Value.map v.utcEntries).Plain 16 := by
  rw [Value.plain_map]
  intro entry hentry
  obtain ⟨date, -, rfl⟩ := List.mem_map.mp hentry
  refine ⟨Value.plain_text _ _, ?_⟩
  rw [Value.plain_tag]
  exact ⟨by decide, by decide, Value.plain_text _ _⟩

/-- a tagged UTC date with whole seconds, under a name -/
def IsUtcEntry (entry : Value × Value) : Prop :=
  ∃ name s, entry = (.text name, .tag 0 (.text s)) ∧ IsUtcText s

/-- **A normal form.**  The value is encoded, neither with an error nor with a panic, as UTC dates
with whole seconds; they are decoded as the same instants without their fractions, and these have
the same encoding. -/
def HasNormalForm [Ciborium] (v : ValidityInfo) : Prop :=
  ∃ entries bytes, v.encode = .ok (.map entries) ∧ (∀ entry ∈ entries, IsUtcEntry entry) ∧
    toVec v = .ok bytes ∧ fromSlice ValidityInfo bytes = .ok v.truncated ∧
    v.truncated.encode = .ok (.map entries) ∧ toVec v.truncated = .ok bytes

theorem hasNormalForm_of_years [LawfulCiborium] {v : ValidityInfo} (h : v.InYears) :
    v.HasNormalForm := by
  have hvec : toVec v = .ok (Ciborium.intoWriter (.map v.utcEntries)) := toVec_ok (toValue_of_years h)
  refine ⟨v.utcEntries, _, encode_eq_ok_iff.mpr ⟨h, rfl⟩, ?_, hvec, ?_, ?_, ?_⟩
  · intro entry hentry
    obtain ⟨date, -, rfl⟩ := List.mem_map.mp hentry
    exact ⟨date.1, _, rfl, Calendar.isUtcText_utcText _⟩
  · exact LawfulCiborium.fromSlice_intoWriter (plain_utcEntries v) (ofValue_utcEntries h)
  · rw [encode_eq_ok_iff, utcEntries_truncated]
    exact ⟨inYears_truncated h, rfl⟩
  · have htoValue := toValue_of_years (inYears_truncated h)
    rw [utcEntries_truncated] at htoValue
    exact toVec_ok htoValue

theorem mem_dateNames {v : ValidityInfo} {date : String × OffsetDateTime} (h : date ∈ v.dates) :
    date.1 ∈ dateNames := by
  obtain ⟨signed, validFrom, validUntil, expectedUpdate⟩ := v
  simp only [dates, List.mem_append, List.mem_cons, List.not_mem_nil, or_false, List.mem_map] at h
  rcases h with (rfl | rfl | rfl) | ⟨t, -, rfl⟩
  · show "signed" ∈ dateNames
    decide
  · show "validFrom" ∈ dateNames
    decide
  · show "validUntil" ∈ dateNames
    decide
  · show "expectedUpdate" ∈ dateNames
    decide

/-- **A decoded value has a normal form exactly when its dates are in the years 0000 to 9999 in
UTC**: otherwise an encoding stops with an error or in a panic. -/
theorem hasNormalForm_iff [LawfulCiborium] {value : Value} {v : ValidityInfo}
    (h : (ofValue value : Except String ValidityInfo) = .ok v) :
    v.HasNormalForm ↔
      ∀ name ∈ dateNames, ∀ t, DateOf value name t → FourDigitYear t.unixSeconds := by
  have hyears : v.InYears ↔
      ∀ name ∈ dateNames, ∀ t, DateOf value name t → FourDigitYear t.unixSeconds := by
    constructor
    · exact fun hv name hname t hdate => hv (name, t) ((dateOf_iff h hname).mp hdate)
    · intro hvalue date hdate
      have hname := mem_dateNames hdate
      exact hvalue date.1 hname date.2 ((dateOf_iff h hname).mpr hdate)
  rw [← hyears]
  constructor
  · rintro ⟨entries, bytes, hencode, -⟩
    exact (encode_eq_ok_iff.mp hencode).1
  · exact hasNormalForm_of_years

end

/-! ## concrete dates -/

section
open Reference.Time

local instance sampleCiborium : LawfulCiborium := Reference.lawfulCiborium

/-- three dates that are the same -/
def sampleEntries (dateStr : String) : List (Value × Value) :=
  [(.text "signed", .tag 0 (.text dateStr)), (.text "validFrom", .tag 0 (.text dateStr)),
   (.text "validUntil", .tag 0 (.text dateStr))]

def sampleValue (dateStr : String) : Value := .map (sampleEntries dateStr)

/-- and the date of the next update before them -/
def updatedValue (dateStr update : String) : Value :=
  .map ((.text "expectedUpdate", .tag 0 (.text update)) :: sampleEntries dateStr)

def sampleInfo (t : OffsetDateTime) : ValidityInfo := ⟨t, t, t, none⟩

/-- `2020-01-01T00:30:00.5+01:00` -/
def sampleDate : OffsetDateTime := ⟨1577835000, 500000000, 3600⟩

/-- `2021-01-01T00:00:00.25-08:00` -/
def sampleUpdate : OffsetDateTime := ⟨1609488000, 250000000, -28800⟩

theorem hasNormalForm_iff_offset :
    let v : ValidityInfo := { sampleInfo sampleDate with expectedUpdate := some sampleUpdate }
    (ofValue (updatedValue "2020-01-01T00:30:00.5+01:00" "2021-01-01T00:00:00.25-08:00") :
        Except String ValidityInfo) = .ok v ∧ v.HasNormalForm := by
  intro v
  have h : (ofValue (updatedValue "2020-01-01T00:30:00.5+01:00" "2021-01-01T00:00:00.25-08:00") :
      Except String ValidityInfo) = .ok v := by
    decide +kernel
  have hyears : ∀ date ∈ v.dates, FourDigitYear date.2.unixSeconds := by decide +kernel
  refine ⟨h, (hasNormalForm_iff h).mpr ?_⟩
  intro name hname t hdate
  exact hyears (name, t) ((dateOf_iff h hname).mp hdate)

/-- the last second of 9999 one hour west of UTC panics, the first of 0000 one hour east is an
error -/
theorem offset_leaves_years :
    (ofValue (sampleValue "9999-12-31T23:59:59-01:00") : Except String ValidityInfo) =
        .ok (sampleInfo ⟨253402304399, 0, -3600⟩) ∧
      (sampleInfo ⟨253402304399, 0, -3600⟩).encode = .error .panicked ∧
      ¬ (sampleInfo ⟨253402304399, 0, -3600⟩).HasNormalForm ∧
    (ofValue (sampleValue "0000-01-01T00:00:00+01:00") : Except String ValidityInfo) =
        .ok (sampleInfo ⟨-62167222800, 0, 3600⟩) ∧
      (sampleInfo ⟨-62167222800, 0, 3600⟩).encode =
        .error (.failed "The year component cannot be formatted into the requested format.") ∧
      ¬ (sampleInfo ⟨-62167222800, 0, 3600⟩).HasNormalForm := by
  have hafter : (sampleInfo ⟨253402304399, 0, -3600⟩).encode = .error .panicked := by
    decide +kernel
  have hbefore : (sampleInfo ⟨-62167222800, 0, 3600⟩).encode =
      .error (.failed "The year component cannot be formatted into the requested format.") := by
    decide +kernel
  refine ⟨by decide +kernel, hafter, ?_, by decide +kernel, hbefore, ?_⟩
  · rintro ⟨entries, bytes, hencode, -⟩
    rw [hafter] at hencode
    cases hencode
  · rintro ⟨entries, bytes, hencode, -⟩
    rw [hbefore] at hencode
    cases hencode

end

end ValidityInfo

end Isomdl
