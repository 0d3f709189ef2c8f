import Isomdl.Namespaces.Faithful

/-!
# The namespace `org.iso.18013.5.1.aamva` (`org_iso_18013_5_1_aamva/`)

The codes of this namespace are matched letter for letter and digit for digit, so a code is written
as it was read.  Every field has a key of its own, and no type reads more than its value.

* `CountyCode.new_eq_ok`      a county code is read of its own text;
* `ReadingLaw`                what is read of an object and what is written back;
* `readingLaw`                **it holds of every object.**
-/

set_option linter.unusedSectionVars false

namespace Isomdl

open Cbor

namespace Aamva

/-! ## codes -/

section
variable {α : Type}

/-- `from_str` of an enumeration, with the texts that its arms match on -/
def fromCodes (codes : List (String × α)) (s : String) : Except ParsingError α :=
  match codes.lookup s with
  | some a => .ok a
  | none => .error (.Unrecognized s)

/-- `try_from` of an enumeration, with the numbers that its arms match on -/
def fromNumbers (numbers : List (UInt32 × α)) (u : UInt32) : Except ParsingError α :=
  match numbers.lookup u with
  | some a => .ok a
  | none => .error (.message ("unrecognized variant: " ++ toString u.toNat))

/-- `u32::from_json(v)?.try_into()` -/
def fromU32 (tryFrom : UInt32 → Except ParsingError α) (v : Json) : Parsed α := do
  let u ← (fromJson v : Parsed UInt32)
  parsing (tryFrom u)

theorem fromCodes_eq_ok {codes : List (String × α)} {toStr : α → String}
    (h : ∀ e ∈ codes, toStr e.2 = e.1) {s : String} {a : α} (ha : fromCodes codes s = .ok a) :
    toStr a = s := by
  unfold fromCodes at ha
  split at ha
  · next b hlookup =>
    cases ha
    obtain ⟨l, r, hcodes, -⟩ := List.lookup_eq_some_iff.mp hlookup
    exact h (s, a) (by rw [hcodes]; simp)
  · cases ha

theorem fromNumbers_eq_ok {numbers : List (UInt32 × α)} {toU8 : α → UInt8}
    (h : ∀ e ∈ numbers, (toU8 e.2).toUInt32 = e.1) {u : UInt32} {a : α}
    (ha : fromNumbers numbers u = .ok a) : (toU8 a).toUInt32 = u := by
  unfold fromNumbers at ha
  split at ha
  · next b hlookup =>
    cases ha
    obtain ⟨l, r, hnumbers, -⟩ := List.lookup_eq_some_iff.mp hlookup
    exact h (u, a) (by rw [hnumbers]; simp)
  · cases ha

theorem fromU32_not_panics (tryFrom : UInt32 → Except ParsingError α) (v : Json) :
    fromU32 tryFrom v ≠ .error .panicked :=
  bind_not_panics (u32_not_panics v) fun u => parsing_not_panics (tryFrom u)

variable [FullDateFormat]

theorem fromCodes_spells {codes : List (String × α)} {toStr : α → String}
    (h : ∀ e ∈ codes, toStr e.2 = e.1) {v : Json} {a : α}
    (ha : fromText (fromCodes codes) v = .ok a) : Spells .text v (.text (toStr a)) :=
  fromText_spells (fun _ _ => fromCodes_eq_ok h) ha

theorem fromNumbers_spells {numbers : List (UInt32 × α)} {toU8 : α → UInt8}
    (h : ∀ e ∈ numbers, (toU8 e.2).toUInt32 = e.1) {v : Json} {a : α}
    (ha : fromU32 (fromNumbers numbers) v = .ok a) :
    Spells .number v (.ofUInt64 (toU8 a).toUInt64) := by
  have hspells : Spells .number v (.ofUInt64 (toU8 a).toUInt32.toUInt64) :=
    fromU32_spells (fun _ _ => fromNumbers_eq_ok h) ha
  rw [UInt8.toUInt64_toUInt32] at hspells
  exact hspells

end

/-! ### `name_suffix.rs`, `name_truncation.rs`, `race_and_ethnicity.rs`, `dhs_compliance.rs` -/

inductive NameSuffix where
  | Junior | Senior | First | FirstNumeral | Second | SecondNumeral | Third | ThirdNumeral
  | Fourth | FourthNumeral | Fifth | FifthNumeral | Sixth | SixthNumeral | Seventh
  | SeventhNumeral | Eighth | EighthNumeral | Ninth | NinthNumeral

def NameSuffix.toStr : NameSuffix → String
  | .Junior => "JR"
  | .Senior => "SR"
  | .First => "1ST"
  | .FirstNumeral => "I"
  | .Second => "2ND"
  | .SecondNumeral => "II"
  | .Third => "3RD"
  | .ThirdNumeral => "III"
  | .Fourth => "4TH"
  | .FourthNumeral => "IV"
  | .Fifth => "5TH"
  | .FifthNumeral => "V"
  | .Sixth => "6TH"
  | .SixthNumeral => "VI"
  | .Seventh => "7TH"
  | .SeventhNumeral => "VII"
  | .Eighth => "8TH"
  | .EighthNumeral => "VIII"
  | .Ninth => "9TH"
  | .NinthNumeral => "IX"

def NameSuffix.codes : List (String × NameSuffix) :=
  [("JR", .Junior), ("SR", .Senior), ("1ST", .First), ("I", .FirstNumeral), ("2ND", .Second),
   ("II", .SecondNumeral), ("3RD", .Third), ("III", .ThirdNumeral), ("4TH", .Fourth),
   ("IV", .FourthNumeral), ("5TH", .Fifth), ("V", .FifthNumeral), ("6TH", .Sixth),
   ("VI", .SixthNumeral), ("7TH", .Seventh), ("VII", .SeventhNumeral), ("8TH", .Eighth),
   ("VIII", .EighthNumeral), ("9TH", .Ninth), ("IX", .NinthNumeral)]

instance : ToCbor NameSuffix := ⟨fun n => .text n.toStr⟩

instance : FromJson NameSuffix where
  fromJson := fromText (fromCodes NameSuffix.codes)

inductive NameTruncation where
  | Truncated | NotTruncated | Unknown

def NameTruncation.toStr : NameTruncation → String
  | .Truncated => "T"
  | .NotTruncated => "N"
  | .Unknown => "U"

def NameTruncation.codes : List (String × NameTruncation) :=
  [("T", .Truncated), ("N", .NotTruncated), ("U", .Unknown)]

instance : ToCbor NameTruncation := ⟨fun n => .text n.toStr⟩

instance : FromJson NameTruncation where
  fromJson := fromText (fromCodes NameTruncation.codes)

inductive RaceAndEthnicity where
  | AI | AP | BK | H | O | U | W

def RaceAndEthnicity.toStr : RaceAndEthnicity → String
  | .AI => "AI"
  | .AP => "AP"
  | .BK => "BK"
  | .H => "H"
  | .O => "O"
  | .U => "U"
  | .W => "W"

def RaceAndEthnicity.codes : List (String × RaceAndEthnicity) :=
  [("AI", .AI), ("AP", .AP), ("BK", .BK), ("H", .H), ("O", .O), ("U", .U), ("W", .W)]

instance : ToCbor RaceAndEthnicity := ⟨fun r => .text r.toStr⟩

instance : FromJson RaceAndEthnicity where
  fromJson := fromText (fromCodes RaceAndEthnicity.codes)

inductive DHSCompliance where
  | F | N

def DHSCompliance.toStr : DHSCompliance → String
  | .F => "F"
  | .N => "N"

def DHSCompliance.codes : List (String × DHSCompliance) := [("F", .F), ("N", .N)]

instance : ToCbor DHSCompliance := ⟨fun c => .text c.toStr⟩

instance : FromJson DHSCompliance where
  fromJson := fromText (fromCodes DHSCompliance.codes)

/-! ### `edl_indicator.rs`, `sex.rs`, `weight_range.rs`, `present.rs` -/

inductive EDLIndicator where
  | DriversLicense | IdentificationCard

def EDLIndicator.toU8 : EDLIndicator → UInt8
  | .DriversLicense => 1
  | .IdentificationCard => 2

def EDLIndicator.numbers : List (UInt32 × EDLIndicator) :=
  [(1, .DriversLicense), (2, .IdentificationCard)]

instance : ToCbor EDLIndicator := ⟨fun i => .ofUInt64 i.toU8.toUInt64⟩

instance : FromJson EDLIndicator where
  fromJson := fromU32 (fromNumbers EDLIndicator.numbers)

/-- here there is no number for a sex that is not known -/
inductive Sex where
  | Male | Female | NotApplicable

def Sex.toU8 : Sex → UInt8
  | .Male => 1
  | .Female => 2
  | .NotApplicable => 9

def Sex.numbers : List (UInt32 × Sex) := [(1, .Male), (2, .Female), (9, .NotApplicable)]

instance : ToCbor Sex := ⟨fun s => .ofUInt64 s.toU8.toUInt64⟩

instance : FromJson Sex where
  fromJson := fromU32 (fromNumbers Sex.numbers)

inductive WeightRange where
  | Zero | One | Two | Three | Four | Five | Six | Seven | Eight | Nine

def WeightRange.toU8 : WeightRange → UInt8
  | .Zero => 0
  | .One => 1
  | .Two => 2
  | .Three => 3
  | .Four => 4
  | .Five => 5
  | .Six => 6
  | .Seven => 7
  | .Eight => 8
  | .Nine => 9

def WeightRange.numbers : List (UInt32 × WeightRange) :=
  [(0, .Zero), (1, .One), (2, .Two), (3, .Three), (4, .Four), (5, .Five), (6, .Six), (7, .Seven),
   (8, .Eight), (9, .Nine)]

instance : ToCbor WeightRange := ⟨fun w => .ofUInt64 w.toU8.toUInt64⟩

instance : FromJson WeightRange where
  fromJson := fromU32 (fromNumbers WeightRange.numbers)

/-- Indicator of presence -/
structure Present where

/-- the integer that is written -/
def Present.toU8 : Present → UInt8
  | ⟨⟩ => 1

def Present.numbers : List (UInt32 × Present) := [(1, ⟨⟩)]

instance : ToCbor Present := ⟨fun p => .ofUInt64 p.toU8.toUInt64⟩

instance : FromJson Present where
  fromJson := fromU32 (fromNumbers Present.numbers)

/-! ### `county_code.rs` -/

abbrev Digit : Type := { c : Char // c.isDigit }

structure CountyCode where
  digits : Digit × Digit × Digit

namespace CountyCode

/-- `match chars.next()` -/
def nextDigit : List Char → Except ParsingError (Digit × List Char)
  | [] => .error (.message "too short, county code must be three digits")
  | c :: chars =>
    if h : c.isDigit then .ok (⟨c, h⟩, chars)
    else .error (.message ("expected a digit, found '" ++ c.toString ++ "'"))

def toTrebleDigits (s : String) : Except ParsingError (Digit × Digit × Digit) := do
  let (first, chars) ← nextDigit s.toList
  let (second, chars) ← nextDigit chars
  let (third, chars) ← nextDigit chars
  if chars.isEmpty then .ok (first, second, third)
  else .error (.message "too long, county code must be three digits")

def new (countyCode : String) : Except ParsingError CountyCode :=
  CountyCode.mk <$> toTrebleDigits countyCode

def asStr (code : CountyCode) : String :=
  .ofList [code.digits.1.val, code.digits.2.1.val, code.digits.2.2.val]

theorem nextDigit_eq_ok {chars : List Char} {p : Digit × List Char} :
    nextDigit chars = .ok p ↔ chars = p.1.val :: p.2 := by
  obtain ⟨⟨d, hd⟩, rest⟩ := p
  cases chars with
  | nil => simp [nextDigit]
  | cons c chars =>
    rw [nextDigit]
    split
    · simp
    · next hc =>
      refine iff_of_false nofun fun heq => ?_
      cases heq
      exact hc hd

/-- **A county code is read of its own text.** -/
theorem new_eq_ok {s : String} {code : CountyCode} : new s = .ok code ↔ code.asStr = s := by
  obtain ⟨first, second, third⟩ := code
  have hdigits : new s = .ok ⟨first, second, third⟩ ↔
      toTrebleDigits s = .ok (first, second, third) := by
    rw [new]
    cases toTrebleDigits s with
    | error e => exact iff_of_false nofun nofun
    | ok digits =>
      constructor
      · intro h
        cases h
        rfl
      · intro h
        cases h
        rfl
  have hchars : asStr ⟨first, second, third⟩ = s ↔
      s.toList = [first.val, second.val, third.val] := by
    rw [← String.toList_inj, asStr, String.toList_ofList, eq_comm]
  rw [hdigits, hchars]
  constructor
  · intro h
    obtain ⟨⟨a, rest⟩, ha, h⟩ := bind_eq_ok h
    obtain ⟨⟨b, rest'⟩, hb, h⟩ := bind_eq_ok h
    obtain ⟨⟨c, rest''⟩, hc, h⟩ := bind_eq_ok h
    rw [nextDigit_eq_ok.mp ha, nextDigit_eq_ok.mp hb, nextDigit_eq_ok.mp hc]
    cases rest'' with
    | nil =>
      cases h
      rfl
    | cons d rest'' => cases h
  · intro h
    have hnext (d : Digit) (chars : List Char) : nextDigit (d.val :: chars) = .ok (d, chars) :=
      nextDigit_eq_ok.mpr rfl
    simp [toTrebleDigits, h, hnext, bind, Except.bind]

end CountyCode

instance : ToCbor CountyCode := ⟨fun c => .text c.asStr⟩

instance : FromJson CountyCode where
  fromJson := fromText CountyCode.new

section
variable [FullDateFormat]

/-! ### what a code says -/

instance : Faithful NameSuffix .text where
  spells := fromCodes_spells (by decide)
  not_panics := fromText_not_panics _
  absent_not_panics := nofun

instance : Faithful NameTruncation .text where
  spells := fromCodes_spells (by decide)
  not_panics := fromText_not_panics _
  absent_not_panics := nofun

instance : Faithful RaceAndEthnicity .text where
  spells := fromCodes_spells (by decide)
  not_panics := fromText_not_panics _
  absent_not_panics := nofun

instance : Faithful DHSCompliance .text where
  spells := fromCodes_spells (by decide)
  not_panics := fromText_not_panics _
  absent_not_panics := nofun

instance : Faithful EDLIndicator .number where
  spells := fromNumbers_spells (by decide)
  not_panics := fromU32_not_panics _
  absent_not_panics := nofun

instance : Faithful Sex .number where
  spells := fromNumbers_spells (by decide)
  not_panics := fromU32_not_panics _
  absent_not_panics := nofun

instance : Faithful WeightRange .number where
  spells := fromNumbers_spells (by decide)
  not_panics := fromU32_not_panics _
  absent_not_panics := nofun

instance : Faithful Present .number where
  spells := fromNumbers_spells (by decide)
  not_panics := fromU32_not_panics _
  absent_not_panics := nofun

instance : Faithful CountyCode .text where
  spells := fromText_spells fun _ _ => CountyCode.new_eq_ok.mp
  not_panics := fromText_not_panics _
  absent_not_panics := nofun

/-! ## `domestic_driving_privileges.rs` -/

def DomesticVehicleClass.fields : List Field :=
  [⟨"domestic_vehicle_class_code", .plain String⟩,
   ⟨"domestic_vehicle_class_description", .plain String⟩,
   ⟨"issue_date", .optional FullDate⟩,
   ⟨"expiry_date", .optional FullDate⟩]

abbrev DomesticVehicleClass : Type := Record DomesticVehicleClass.fields

def DomesticVehicleRestriction.fields : List Field :=
  [⟨"domestic_vehicle_restriction_code", .optional String⟩,
   ⟨"domestic_vehicle_restriction_description", .plain String⟩]

abbrev DomesticVehicleRestriction : Type := Record DomesticVehicleRestriction.fields

structure DomesticVehicleRestrictions where
  restrictions : NonEmptyVec DomesticVehicleRestriction

instance : ToCbor DomesticVehicleRestrictions :=
  ⟨fun r => .array (r.restrictions.toList.map toCbor)⟩
instance : FromJson DomesticVehicleRestrictions where
  fromJson v :=
    DomesticVehicleRestrictions.mk <$> (fromJson v : Parsed (NonEmptyVec DomesticVehicleRestriction))

def DomesticVehicleEndorsement.fields : List Field :=
  [⟨"domestic_vehicle_endorsement_code", .optional String⟩,
   ⟨"domestic_vehicle_endorsement_description", .plain String⟩]

abbrev DomesticVehicleEndorsement : Type := Record DomesticVehicleEndorsement.fields

structure DomesticVehicleEndorsements where
  endorsements : NonEmptyVec DomesticVehicleEndorsement

instance : ToCbor DomesticVehicleEndorsements :=
  ⟨fun e => .array (e.endorsements.toList.map toCbor)⟩
instance : FromJson DomesticVehicleEndorsements where
  fromJson v :=
    DomesticVehicleEndorsements.mk <$> (fromJson v : Parsed (NonEmptyVec DomesticVehicleEndorsement))

def DomesticDrivingPrivilege.fields : List Field :=
  [⟨"domestic_vehicle_class", .optional DomesticVehicleClass⟩,
   ⟨"domestic_vehicle_restrictions", .optional DomesticVehicleRestrictions⟩,
   ⟨"domestic_vehicle_endorsements", .optional DomesticVehicleEndorsements⟩]

abbrev DomesticDrivingPrivilege : Type := Record DomesticDrivingPrivilege.fields

structure DomesticDrivingPrivileges where
  privileges : List DomesticDrivingPrivilege

instance : ToCbor DomesticDrivingPrivileges := ⟨fun d => .array (d.privileges.map toCbor)⟩
instance : FromJson DomesticDrivingPrivileges where
  fromJson v := DomesticDrivingPrivileges.mk <$> (fromJson v : Parsed (List DomesticDrivingPrivilege))

/-! ### what a privilege says -/

def DomesticVehicleClass.known : List (String × Shape) :=
  [("domestic_vehicle_class_code", .text), ("domestic_vehicle_class_description", .text),
   ("issue_date", .fullDate), ("expiry_date", .fullDate)]

def DomesticVehicleRestriction.known : List (String × Shape) :=
  [("domestic_vehicle_restriction_code", .text), ("domestic_vehicle_restriction_description", .text)]

def DomesticVehicleEndorsement.known : List (String × Shape) :=
  [("domestic_vehicle_endorsement_code", .text), ("domestic_vehicle_endorsement_description", .text)]

def DomesticDrivingPrivilege.known : List (String × Shape) :=
  [("domestic_vehicle_class", .object DomesticVehicleClass.known),
   ("domestic_vehicle_restrictions", .array (.object DomesticVehicleRestriction.known)),
   ("domestic_vehicle_endorsements", .array (.object DomesticVehicleEndorsement.known))]

instance : Mandatory String := ⟨nofun, fun _ => rfl, nofun⟩

instance : Mandatory FullDate := ⟨nofun, fun _ => rfl, nofun⟩

theorem DomesticVehicleClass.isFaithful : Record.IsFaithful fields known where
  fields := .cons plain_faithful <| .cons plain_faithful <| .cons optional_faithful <|
    .cons optional_faithful .nil
  nodup := by decide

instance : Faithful DomesticVehicleClass (.object DomesticVehicleClass.known) :=
  DomesticVehicleClass.isFaithful.faithful

theorem DomesticVehicleRestriction.isFaithful : Record.IsFaithful fields known where
  fields := .cons optional_faithful <| .cons plain_faithful .nil
  nodup := by decide

instance : Faithful DomesticVehicleRestriction (.object DomesticVehicleRestriction.known) :=
  DomesticVehicleRestriction.isFaithful.faithful

instance : Faithful DomesticVehicleRestrictions
    (.array (.object DomesticVehicleRestriction.known)) where
  spells h := by
    obtain ⟨xs, hxs, rfl⟩ := map_eq_ok h
    exact fromNonEmptyVec_spells hxs
  not_panics v := map_not_panics _ (fromNonEmptyVec_not_panics v)
  absent_not_panics := nofun

theorem DomesticVehicleEndorsement.isFaithful : Record.IsFaithful fields known where
  fields := .cons optional_faithful <| .cons plain_faithful .nil
  nodup := by decide

instance : Faithful DomesticVehicleEndorsement (.object DomesticVehicleEndorsement.known) :=
  DomesticVehicleEndorsement.isFaithful.faithful

instance : Faithful DomesticVehicleEndorsements
    (.array (.object DomesticVehicleEndorsement.known)) where
  spells h := by
    obtain ⟨xs, hxs, rfl⟩ := map_eq_ok h
    exact fromNonEmptyVec_spells hxs
  not_panics v := map_not_panics _ (fromNonEmptyVec_not_panics v)
  absent_not_panics := nofun

theorem DomesticDrivingPrivilege.isFaithful : Record.IsFaithful fields known where
  fields := .cons optional_faithful <| .cons optional_faithful <| .cons optional_faithful .nil
  nodup := by decide

instance : Faithful DomesticDrivingPrivilege (.object DomesticDrivingPrivilege.known) :=
  DomesticDrivingPrivilege.isFaithful.faithful

instance : Faithful DomesticDrivingPrivileges
    (.array (.object DomesticDrivingPrivilege.known)) where
  spells h := by
    obtain ⟨xs, hxs, rfl⟩ := map_eq_ok h
    exact fromList_spells hxs
  not_panics v := map_not_panics _ (fromList_not_panics v)
  absent_not_panics := nofun

/-! ## `mod.rs` -/

/-- the fields of `OrgIso1801351Aamva` -/
def OrgIso1801351Aamva.fields : List Field :=
  [⟨"domestic_driving_privileges", .plain DomesticDrivingPrivileges⟩,
   ⟨"name_suffix", .optional NameSuffix⟩,
   ⟨"organ_donor", .optional Present⟩,
   ⟨"veteran", .optional Present⟩,
   ⟨"family_name_truncation", .plain NameTruncation⟩,
   ⟨"given_name_truncation", .plain NameTruncation⟩,
   ⟨"aka_family_name.v2", .optional Latin1⟩,
   ⟨"aka_given_name.v2", .optional Latin1⟩,
   ⟨"aka_suffix", .optional NameSuffix⟩,
   ⟨"weight_range", .optional WeightRange⟩,
   ⟨"race_ethnicity", .optional RaceAndEthnicity⟩,
   ⟨"EDL_credential", .optional EDLIndicator⟩,
   ⟨"sex", .plain Sex⟩,
   ⟨"DHS_compliance", .plain DHSCompliance⟩,
   ⟨"resident_county", .optional CountyCode⟩,
   ⟨"hazmat_endorsement_expiration_date", .optional FullDate⟩,
   ⟨"CDL_indicator", .optional Present⟩,
   ⟨"DHS_compliance_text", .optional String⟩,
   ⟨"DHS_temporary_lawful_status", .optional Present⟩]

/-- The `org.iso.18013.5.1.aamva` namespace. -/
abbrev OrgIso1801351Aamva : Type := Record OrgIso1801351Aamva.fields

namespace OrgIso1801351Aamva

def fromJson : Json → Parsed OrgIso1801351Aamva := recordFromJson fields
def toNsMap : OrgIso1801351Aamva → BTreeMap String Value := recordToNsMap fields

instance : Mandatory DomesticDrivingPrivileges := ⟨nofun, fun _ => rfl, nofun⟩
instance : Mandatory NameTruncation := ⟨nofun, fun _ => rfl, nofun⟩
instance : Mandatory Sex := ⟨nofun, fun _ => rfl, nofun⟩
instance : Mandatory DHSCompliance := ⟨nofun, fun _ => rfl, nofun⟩

/-- the names of the namespace, and what is written under each -/
def known : List (String × Shape) :=
  [("domestic_driving_privileges", .array (.object DomesticDrivingPrivilege.known)),
   ("name_suffix", .text), ("organ_donor", .number), ("veteran", .number),
   ("family_name_truncation", .text), ("given_name_truncation", .text),
   ("aka_family_name.v2", .text), ("aka_given_name.v2", .text), ("aka_suffix", .text),
   ("weight_range", .number), ("race_ethnicity", .text), ("EDL_credential", .number),
   ("sex", .number), ("DHS_compliance", .text), ("resident_county", .text),
   ("hazmat_endorsement_expiration_date", .fullDate), ("CDL_indicator", .number),
   ("DHS_compliance_text", .text), ("DHS_temporary_lawful_status", .number)]

theorem isFaithful : Record.IsFaithful fields known where
  fields := .cons plain_faithful <| .cons optional_faithful <| .cons optional_faithful <|
    .cons optional_faithful <| .cons plain_faithful <| .cons plain_faithful <|
    .cons optional_faithful <| .cons optional_faithful <| .cons optional_faithful <|
    .cons optional_faithful <| .cons optional_faithful <| .cons optional_faithful <|
    .cons plain_faithful <| .cons plain_faithful <| .cons optional_faithful <|
    .cons optional_faithful <| .cons optional_faithful <| .cons optional_faithful <|
    .cons optional_faithful .nil
  nodup := by decide +kernel

/-- the errors of the fields that are not read, in the order of the fields -/
def refusals (map : JsonMap) : List FromJsonError := fields.filterMap (Record.refusal map)

/-- what is read of an object, what is reported, and what is written back -/
structure ReadingLaw (map : JsonMap) : Prop where
  /-- a struct is read, or the fields that are not are reported -/
  cases : (refusals map = [] ∧ ∃ s, fromJson (.ofMap map) = .ok s) ∨
    (refusals map ≠ [] ∧ fromJson (.ofMap map) = refuse (Record.report (refusals map)))
  missing : ∀ f ∈ fields, f.type.isOptional = false → map[f.ident]? = none →
    .WithContext f.ident .Missing ∈ refusals map
  nulls : fromJson (.ofMap (Record.withoutNulls fields map)) = fromJson (.ofMap map)
  keys : ∀ s, fromJson (.ofMap map) = .ok s → ∀ k, k ∈ toNsMap s ↔
    k ∈ known.map Prod.fst ∧ ∃ v, map[k]? = some v ∧ v ≠ .null
  /-- and so in every nested struct, with the names of its own -/
  spells : ∀ s, fromJson (.ofMap map) = .ok s → Spells (.object known) (.ofMap map) (toCbor s)

theorem mandatory_eq {f : Field} (hf : f ∈ fields) (h : f.type.isOptional = false) :
    f = ⟨"domestic_driving_privileges", .plain DomesticDrivingPrivileges⟩ ∨
      f = ⟨"family_name_truncation", .plain NameTruncation⟩ ∨
      f = ⟨"given_name_truncation", .plain NameTruncation⟩ ∨
      f = ⟨"sex", .plain Sex⟩ ∨ f = ⟨"DHS_compliance", .plain DHSCompliance⟩ := by
  have hmem : f ∈ fields.filter fun f => !f.type.isOptional :=
    List.mem_filter.mpr ⟨hf, by rw [h]; rfl⟩
  have hfilter : (fields.filter fun f => !f.type.isOptional) =
      [⟨"domestic_driving_privileges", .plain DomesticDrivingPrivileges⟩,
       ⟨"family_name_truncation", .plain NameTruncation⟩,
       ⟨"given_name_truncation", .plain NameTruncation⟩,
       ⟨"sex", .plain Sex⟩, ⟨"DHS_compliance", .plain DHSCompliance⟩] := rfl
  rw [hfilter] at hmem
  simpa only [List.mem_cons, List.not_mem_nil, or_false] using hmem

theorem read_absent {f : Field} (hf : f ∈ fields) (h : f.type.isOptional = false) {map : JsonMap}
    (habsent : map[f.ident]? = none) : f.read map = refuse .Missing := by
  rcases mandatory_eq hf h with rfl | rfl | rfl | rfl | rfl
  all_goals
    rw [Field.read, FieldType.read, habsent]
    rfl

theorem refusals_missing {f : Field} (hf : f ∈ fields) (h : f.type.isOptional = false)
    {map : JsonMap} (habsent : map[f.ident]? = none) :
    .WithContext f.ident .Missing ∈ refusals map := by
  refine List.mem_filterMap.mpr ⟨f, hf, ?_⟩
  rw [Record.refusal, read_absent hf h habsent]
  rfl

theorem isDynamicParse_eq_false {f : Field} (hf : f ∈ fields) : f.type.isDynamicParse = false := by
  obtain ⟨shape, hfaithful⟩ := isFaithful.type hf
  cases htype : f.type with
  | plain T => rfl
  | optional T => rfl
  | dynamicParse T =>
    rw [htype] at hfaithful
    cases hfaithful
  | many T => rfl

theorem fromJson_congr {map map' : JsonMap} (h : ∀ f ∈ fields, f.read map = f.read map') :
    fromJson (.ofMap map) = fromJson (.ofMap map') := by
  rw [fromJson, Json.ofMap, Json.ofMap, recordFromJson, recordFromJson, BTreeMap.ofList_toList,
    BTreeMap.ofList_toList, Record.readFields_congr h]

/-- **What the reader and the writer do is the reading law.** -/
theorem readingLaw (map : JsonMap) : ReadingLaw map where
  cases := by
    have hcases := isFaithful.recordFromJson_cases map.toList
    rw [BTreeMap.ofList_toList] at hcases
    exact hcases
  missing f hf h habsent := refusals_missing hf h habsent
  nulls := fromJson_congr fun f hf =>
    Record.read_withoutNulls isFaithful.keysDisjoint hf (isDynamicParse_eq_false hf)
  keys s hs k := isFaithful.mem_iff (Record.recordFromJson_eq_ok.mp hs) k
  spells s hs := isFaithful.spells hs

end OrgIso1801351Aamva

end

end Aamva

end Isomdl
