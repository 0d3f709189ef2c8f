import Isomdl.Definitions.Mso
import Isomdl.Namespaces.Codes
import Isomdl.Namespaces.Derive

/-!
# The types of the elements (`namespaces/fulldate.rs`, `namespaces/latin1.rs`, `org_iso_18013_5_1/`)

The types of the fields of `org.iso.18013.5.1`, each with its reader and its writer.  The elements
that come under several keys are read by one loop: the values under the keys of a pattern, filed
under what the key says.

* `IssuingJurisdiction.fromMap_missing_iff`   when the jurisdiction is missing, and not refused;
* `mem_readEntries`       what the loop reads of the entries of an object;
* `readKeys_congr`        it sees no other keys than those of its pattern;
* `getElem?_writeKeys`    **what it read is written under the keys it was read of.**
-/

set_option linter.unusedSectionVars false

namespace Isomdl

open Cbor Std

/-! ## `latin1.rs` -/

def isLowerLatin (c : Char) : Bool := 0x20 ≤ c.toNat && c.toNat < 0x7F
def isUpperLatin (c : Char) : Bool := 0xA0 ≤ c.toNat && c.toNat < 0x100
def isLatin (c : Char) : Bool := isLowerLatin c || isUpperLatin c

def nonLatin (s : String) : List Char := s.toList.filter fun c => !isLatin c

/-- A string of up to 150 bytes from ISO/IEC 8859-1 Latin alphabet 1. -/
structure Latin1 where
  text : String
  short : text.utf8ByteSize ≤ 150
  latin : nonLatin text = []

def Latin1.fromStr (s : String) : Except ParsingError Latin1 :=
  if hshort : s.utf8ByteSize ≤ 150 then
    if hlatin : nonLatin s = [] then .ok ⟨s, hshort, hlatin⟩
    else .error (.NonLatin1 (nonLatin s))
  else .error (.TooLong s.utf8ByteSize)

instance : ToCbor Latin1 := ⟨fun l => .text l.text⟩

instance : FromJson Latin1 where
  fromJson := fromText Latin1.fromStr

/-! ## `fulldate.rs`, `tdate.rs` -/

/-- `time::Date` -/
structure Date where
  year : Int
  month : Nat
  day : Nat
  deriving DecidableEq, Repr

/-- the `time` crate: `Date::parse` with the format `[year]-[month]-[day]` -/
class FullDateFormat where
  parse : String → Except String Date

/-- `full-date` as defined in RFC3339. -/
structure FullDate where
  date : Date

/-- `{:0>2}` -/
def twoDigits (n : Nat) : String := if n < 10 then "0" ++ toString n else toString n

def FullDate.display (d : FullDate) : String :=
  toString d.date.year ++ "-" ++ twoDigits d.date.month ++ "-" ++ twoDigits d.date.day

instance : ToCbor FullDate := ⟨fun d => .tag 1004 (.text d.display)⟩

instance [FullDateFormat] : FromJson FullDate where
  fromJson := fromText fun s => (FullDateFormat.parse s).map FullDate.mk |>.mapError .message

/-- `tdate` as per RFC8610 and restrictions in 18013-5. -/
structure TDate where
  text : String

instance : ToCbor TDate := ⟨fun t => .tag 0 (.text t.text)⟩

/-- the canonical text of a parsed date-time, with the panics of `to_offset` and of the `unwrap`s -/
def TDate.ofDateTime [Rfc3339] (t : OffsetDateTime) : Parsed TDate :=
  match Rfc3339.toOffsetUtc t with
  | none => .error .panicked
  | some t =>
    match Rfc3339.replaceMillisecond t 0 with
    | .error _ => .error .panicked
    | .ok t =>
      match Rfc3339.format t with
      -- a year that the offset moved out of the format's range
      | .error _ => .error .panicked
      | .ok text => .ok ⟨text⟩

instance [Rfc3339] : FromJson TDate where
  fromJson v := do
    let dateStr ← (fromJson v : Parsed String)
    match Rfc3339.parse dateStr with
    | .error e => refuse (.Parsing (.message ("date not in RFC3339 format: " ++ e)))
    | .ok t => TDate.ofDateTime t

/-- `tdate` or `full-date`. -/
inductive TDateOrFullDate where
  | TDate (t : TDate)
  | FullDate (d : FullDate)

instance : ToCbor TDateOrFullDate where
  toCbor
    | .TDate t => toCbor t
    | .FullDate d => toCbor d

instance [Rfc3339] [FullDateFormat] : FromJson TDateOrFullDate where
  fromJson v :=
    match (fromJson v : Parsed Isomdl.TDate) with
    | .ok td => .ok (.TDate td)
    | .error .panicked => .error .panicked
    | .error (.refused _) =>
      match (fromJson v : Parsed Isomdl.FullDate) with
      | .ok fd => .ok (.FullDate fd)
      | .error .panicked => .error .panicked
      | .error (.refused _) =>
        refuse (.Parsing (.message "could not parse as RFC3339 date-time or full-date"))

/-! ## `sex.rs`, `eye_colour.rs`, `hair_colour.rs` -/

inductive Sex where
  | NotKnown
  | Male
  | Female
  | NotApplicable

def Sex.toU8 : Sex → UInt8
  | .NotKnown => 0
  | .Male => 1
  | .Female => 2
  | .NotApplicable => 9

def Sex.tryFrom (u : UInt32) : Except ParsingError Sex :=
  if u = 0 then .ok .NotKnown
  else if u = 1 then .ok .Male
  else if u = 2 then .ok .Female
  else if u = 9 then .ok .NotApplicable
  else .error (.UnrecognizedSex u)

instance : ToCbor Sex := ⟨fun s => .ofUInt64 s.toU8.toUInt64⟩

instance : FromJson Sex where
  fromJson v := do
    let u ← (fromJson v : Parsed UInt32)
    parsing (Sex.tryFrom u)

/-- `str::to_lowercase` as far as it reaches ASCII: the Kelvin sign is the only other character
that has a lower case there -/
def toLowercase (s : String) : String :=
  .ofList (s.toList.map fun c => if c = '\u212A' then 'k' else c.toLower)

/-- `from_str` of an enumeration, with the names that its arms match on -/
def fromNames {α : Type} (names : List (String × α)) (s : String) : Except ParsingError α :=
  match names.lookup (toLowercase s) with
  | some a => .ok a
  | none => .error (.Unrecognized s)

inductive EyeColour where
  | Black | Blue | Brown | Dichromatic | Grey | Green | Hazel | Maroon | Pink | Unknown

def EyeColour.toStr : EyeColour → String
  | .Black => "black"
  | .Blue => "blue"
  | .Brown => "brown"
  | .Dichromatic => "dichromatic"
  | .Grey => "grey"
  | .Green => "green"
  | .Hazel => "hazel"
  | .Maroon => "maroon"
  | .Pink => "pink"
  | .Unknown => "unknown"

def EyeColour.names : List (String × EyeColour) :=
  [("black", .Black), ("blue", .Blue), ("brown", .Brown), ("dichromatic", .Dichromatic),
   ("grey", .Grey), ("green", .Green), ("hazel", .Hazel), ("maroon", .Maroon), ("pink", .Pink),
   ("unknown", .Unknown)]

instance : ToCbor EyeColour := ⟨fun c => .text c.toStr⟩

instance : FromJson EyeColour where
  fromJson := fromText (fromNames EyeColour.names)

inductive HairColour where
  | Bald | Black | Blond | Brown | Grey | Red | Auburn | Sandy | White | Unknown

def HairColour.toStr : HairColour → String
  | .Bald => "bald"
  | .Black => "black"
  | .Blond => "blond"
  | .Brown => "brown"
  | .Grey => "grey"
  | .Red => "red"
  | .Auburn => "auburn"
  | .Sandy => "sandy"
  | .White => "white"
  | .Unknown => "unknown"

def HairColour.names : List (String × HairColour) :=
  [("bald", .Bald), ("black", .Black), ("blond", .Blond), ("brown", .Brown), ("grey", .Grey),
   ("red", .Red), ("auburn", .Auburn), ("sandy", .Sandy), ("white", .White), ("unknown", .Unknown)]

instance : ToCbor HairColour := ⟨fun c => .text c.toStr⟩

instance : FromJson HairColour where
  fromJson := fromText (fromNames HairColour.names)

/-! ## `driving_privileges.rs` -/

/-- The categories of vehicles. -/
inductive VehicleCategoryCode where
  | A | B | C | D | BE | CE | DE | AM | A1 | A2 | B1 | C1 | D1 | C1E | D1E

def VehicleCategoryCode.asRef : VehicleCategoryCode → String
  | .A => "A"
  | .B => "B"
  | .C => "C"
  | .D => "D"
  | .BE => "BE"
  | .CE => "CE"
  | .DE => "DE"
  | .AM => "AM"
  | .A1 => "A1"
  | .A2 => "A2"
  | .B1 => "B1"
  | .C1 => "C1"
  | .D1 => "D1"
  | .C1E => "C1E"
  | .D1E => "D1E"

/-- the variants that `strum::EnumString` reads -/
def VehicleCategoryCode.names : List (String × VehicleCategoryCode) :=
  [("A", .A), ("B", .B), ("C", .C), ("D", .D), ("BE", .BE), ("CE", .CE), ("DE", .DE), ("AM", .AM),
   ("A1", .A1), ("A2", .A2), ("B1", .B1), ("C1", .C1), ("D1", .D1), ("C1E", .C1E), ("D1E", .D1E)]

/-- `str::to_uppercase` as far as the letters of the categories are concerned -/
def toUppercase (s : String) : String := .ofList (s.toList.map Char.toUpper)

instance : ToCbor VehicleCategoryCode := ⟨fun c => .text c.asRef⟩

instance : FromJson VehicleCategoryCode where
  fromJson v := do
    let s ← (fromJson v : Parsed String)
    match VehicleCategoryCode.names.lookup (toUppercase s) with
    | some c => .ok c
    | none => refuse (.Parsing .VariantNotFound)

/-- a code of a restriction -/
abbrev Code : Type := Record
  [⟨"code", .plain String⟩, ⟨"sign", .optional String⟩, ⟨"value", .optional String⟩]

structure Codes where
  codes : NonEmptyVec Code

instance : ToCbor Codes := ⟨fun c => .array (c.codes.toList.map toCbor)⟩
instance : FromJson Codes where
  fromJson v := Codes.mk <$> (fromJson v : Parsed (NonEmptyVec Code))

section
variable [FullDateFormat]

/-- The specifications of vehicle categories and restrictions -/
abbrev DrivingPrivilege : Type := Record
  [⟨"vehicle_category_code", .plain VehicleCategoryCode⟩, ⟨"issue_date", .optional FullDate⟩,
   ⟨"expiry_date", .optional FullDate⟩, ⟨"codes", .optional Codes⟩]

structure DrivingPrivileges where
  privileges : List DrivingPrivilege

instance : ToCbor DrivingPrivileges := ⟨fun d => .array (d.privileges.map toCbor)⟩
instance : FromJson DrivingPrivileges where
  fromJson v := DrivingPrivileges.mk <$> (fromJson v : Parsed (List DrivingPrivilege))

end

/-! ## `issuing_jurisdiction.rs` -/

structure IssuingJurisdiction where
  text : String

def IssuingJurisdiction.new (issuingJurisdiction : String) (issuingCountry : Alpha2) :
    Except ParsingError IssuingJurisdiction :=
  if (stripPrefix issuingCountry.asStr issuingJurisdiction).isNone then .error .CountryMismatch
  else .ok ⟨issuingJurisdiction⟩

instance : ToCbor IssuingJurisdiction := ⟨fun i => .text i.text⟩

/-- `map.get(key).ok_or(Missing).and_then(T::from_json)` -/
def required (T : Type) [FromJson T] (map : JsonMap) (key : String) : Parsed T :=
  match map[key]? with
  | none => refuse .Missing
  | some v => fromJson v

instance : FromJsonMap IssuingJurisdiction where
  fromMap map := do
    let jurisdiction ← required String map "issuing_jurisdiction"
    let country ← required Alpha2 map "issuing_country"
    parsing (IssuingJurisdiction.new jurisdiction country)

theorem bind_ne_missing {α β : Type} {p : Parsed α} {g : α → Parsed β} (hp : p ≠ refuse .Missing)
    (hg : ∀ a, g a ≠ refuse .Missing) : (p >>= g) ≠ refuse .Missing := by
  cases p with
  | ok a => exact hg a
  | error e =>
    intro h
    cases h
    exact hp rfl

theorem parsing_ne_missing {α : Type} (r : Except ParsingError α) :
    parsing r ≠ refuse .Missing := by
  cases r <;> nofun

theorem string_ne_missing (v : Json) : (fromJson v : Parsed String) ≠ refuse .Missing := by
  cases v <;> nofun

theorem alpha2_ne_missing (v : Json) : (fromJson v : Parsed Alpha2) ≠ refuse .Missing :=
  bind_ne_missing (string_ne_missing v) fun _ => parsing_ne_missing _

namespace IssuingJurisdiction

variable {map map' : JsonMap}

theorem fromMap_congr
    (hjurisdiction : map["issuing_jurisdiction"]? = map'["issuing_jurisdiction"]?)
    (hcountry : map["issuing_country"]? = map'["issuing_country"]?) :
    (fromMap map : Parsed IssuingJurisdiction) = fromMap map' := by
  show (required String map _ >>= fun _ => required Alpha2 map _ >>= _) =
    (required String map' _ >>= fun _ => required Alpha2 map' _ >>= _)
  simp only [required, hjurisdiction, hcountry]

theorem fromMap_missing (h : map["issuing_jurisdiction"]? = none) :
    (fromMap map : Parsed IssuingJurisdiction) = refuse .Missing := by
  show (required String map _ >>= fun _ => required Alpha2 map _ >>= _) = _
  rw [required, h]
  rfl

/-- with a country, only an absent jurisdiction is missing -/
theorem fromMap_missing_iff (hcountry : (map["issuing_country"]?).isSome) :
    (fromMap map : Parsed IssuingJurisdiction) = refuse .Missing ↔
      map["issuing_jurisdiction"]? = none := by
  obtain ⟨w, hw⟩ := Option.isSome_iff_exists.mp hcountry
  cases hv : map["issuing_jurisdiction"]? with
  | none => exact iff_of_true (fromMap_missing hv) rfl
  | some v =>
    refine iff_of_false ?_ nofun
    refine bind_ne_missing ?_ fun jurisdiction => bind_ne_missing ?_ fun country => ?_
    · rw [required, hv]
      exact string_ne_missing v
    · rw [required, hw]
      exact alpha2_ne_missing w
    · exact parsing_ne_missing _

theorem fromMap_null (h : map["issuing_jurisdiction"]? = some .null) :
    (fromMap map : Parsed IssuingJurisdiction) = refuse (.UnexpectedType "null" "string") := by
  show (required String map _ >>= fun _ => required Alpha2 map _ >>= _) = _
  rw [required, h]
  rfl

end IssuingJurisdiction

/-! ## elements under several keys -/

section
variable {K V : Type} [Ord K] [TransOrd K] [LawfulEqOrd K] [BEq K] [LawfulBEq K] [FromJson V]

/-- `filter_map` and the conversion of the values, up to the first that fails -/
def readEntries (key : String → Option K) : List (String × Json) → Parsed (List (K × V))
  | [] => .ok []
  | (k, v) :: entries =>
    match key k with
    | none => readEntries key entries
    | some a => do
      let b ← (fromJson v : Parsed V)
      let rest ← readEntries key entries
      .ok ((a, b) :: rest)

/-- `m.iter().filter_map(..).collect()` -/
def readKeys (key : String → Option K) (map : JsonMap) : Parsed (BTreeMap K V) := do
  let entries ← readEntries key map.toList
  .ok (ExtTreeMap.ofList entries compare)

/-- `into_iter().map(..).collect()` -/
def writeKeys [ToCbor V] (name : K → String) (values : BTreeMap K V) : BTreeMap String Value :=
  ExtTreeMap.ofList (values.toList.map fun e => (name e.1, toCbor e.2)) compare

variable {key : String → Option K} {l : List (String × Json)} {es : List (K × V)} {k : String}
  {v : Json} {a : K} {b : V} {map map' : JsonMap}

theorem readEntries_cons_eq_ok :
    readEntries key ((k, v) :: l) = .ok es ↔
      (key k = none ∧ readEntries key l = .ok es) ∨
      ∃ a b rest, key k = some a ∧ (fromJson v : Parsed V) = .ok b ∧
        readEntries key l = .ok rest ∧ es = (a, b) :: rest := by
  rw [readEntries]
  cases key k with
  | none => simp
  | some a =>
    cases (fromJson v : Parsed V) with
    | error e => simp [bind, Except.bind]
    | ok b =>
      cases (readEntries key l : Parsed (List (K × V))) with
      | error e => simp [bind, Except.bind]
      | ok rest => simp [bind, Except.bind, eq_comm]

/-- **What the loop reads of the entries of an object.** -/
theorem mem_readEntries (h : readEntries key l = .ok es) :
    (a, b) ∈ es ↔ ∃ k v, (k, v) ∈ l ∧ key k = some a ∧ (fromJson v : Parsed V) = .ok b := by
  induction l generalizing es with
  | nil =>
    cases h
    simp
  | cons e l ih =>
    obtain ⟨k₀, v₀⟩ := e
    rcases readEntries_cons_eq_ok.mp h with ⟨hk₀, hl⟩ | ⟨a₀, b₀, rest, hk₀, hv₀, hl, rfl⟩
    · rw [ih hl]
      constructor
      · rintro ⟨k, v, hmem, hkv⟩
        exact ⟨k, v, List.mem_cons_of_mem _ hmem, hkv⟩
      · rintro ⟨k, v, hmem, hk, hv⟩
        rcases List.mem_cons.mp hmem with heq | hmem
        · cases heq
          rw [hk₀] at hk
          cases hk
        · exact ⟨k, v, hmem, hk, hv⟩
    · rw [List.mem_cons, ih hl]
      constructor
      · rintro (heq | ⟨k, v, hmem, hkv⟩)
        · cases heq
          exact ⟨k₀, v₀, List.mem_cons_self, hk₀, hv₀⟩
        · exact ⟨k, v, List.mem_cons_of_mem _ hmem, hkv⟩
      · rintro ⟨k, v, hmem, hk, hv⟩
        rcases List.mem_cons.mp hmem with heq | hmem
        · cases heq
          rw [hk₀] at hk
          cases hk
          rw [hv₀] at hv
          cases hv
          exact .inl rfl
        · exact .inr ⟨k, v, hmem, hk, hv⟩

/-- the loop ends only when it has read the value under each of its keys -/
theorem exists_of_readEntries (h : readEntries key l = .ok es) (hmem : (k, v) ∈ l)
    (hk : key k = some a) : ∃ b : V, fromJson v = .ok b := by
  induction l generalizing es with
  | nil => cases hmem
  | cons e l ih =>
    obtain ⟨k₀, v₀⟩ := e
    rcases readEntries_cons_eq_ok.mp h with ⟨hk₀, hl⟩ | ⟨a₀, b₀, rest, hk₀, hv₀, hl, -⟩
    · rcases List.mem_cons.mp hmem with heq | hmem
      · cases heq
        rw [hk₀] at hk
        cases hk
      · exact ih hl hmem
    · rcases List.mem_cons.mp hmem with heq | hmem
      · cases heq
        exact ⟨b₀, hv₀⟩
      · exact ih hl hmem

theorem readEntries_filter :
    readEntries key (l.filter fun e => (key e.1).isSome) =
      (readEntries key l : Parsed (List (K × V))) := by
  induction l with
  | nil => rfl
  | cons e l ih =>
    obtain ⟨k, v⟩ := e
    cases hk : key k with
    | none =>
      rw [List.filter_cons_of_neg (by simp [hk]), ih]
      simp only [readEntries, hk]
    | some a =>
      rw [List.filter_cons_of_pos (by simp [hk])]
      simp only [readEntries, hk, ih]

/-- **The loop sees no other keys than those of its pattern.** -/
theorem readKeys_congr (h : ∀ k, (key k).isSome → map[k]? = map'[k]?) :
    (readKeys key map : Parsed (BTreeMap K V)) = readKeys key map' := by
  have hfilter : (map.filter fun k _ => (key k).isSome) = map'.filter fun k _ => (key k).isSome := by
    apply ExtTreeMap.ext_getElem?
    intro k
    rw [ExtTreeMap.getElem?_filter', ExtTreeMap.getElem?_filter']
    by_cases hk : (key k).isSome
    · rw [h k hk]
    · simp [hk]
  have hlist := congrArg ExtTreeMap.toList hfilter
  rw [ExtTreeMap.toList_filter, ExtTreeMap.toList_filter] at hlist
  rw [readKeys, readKeys, ← readEntries_filter, hlist, readEntries_filter]

theorem readEntries_keys_nodup (hinj : ∀ k k' a, key k = some a → key k' = some a → k = k')
    (hnd : (l.map Prod.fst).Nodup) (h : readEntries key l = .ok es) :
    (es.map Prod.fst).Nodup := by
  induction l generalizing es with
  | nil =>
    cases h
    exact List.nodup_nil
  | cons e l ih =>
    obtain ⟨k₀, v₀⟩ := e
    obtain ⟨hnot, hnd⟩ := List.nodup_cons.mp hnd
    rcases readEntries_cons_eq_ok.mp h with ⟨-, hl⟩ | ⟨a₀, b₀, rest, hk₀, -, hl, rfl⟩
    · exact ih hnd hl
    · refine List.nodup_cons.mpr ⟨?_, ih hnd hl⟩
      intro hmem
      obtain ⟨⟨a, b⟩, hab, rfl⟩ := List.mem_map.mp hmem
      obtain ⟨k, v, hkv, hk, -⟩ := (mem_readEntries hl).mp hab
      rw [hinj k k₀ a hk hk₀] at hkv
      exact hnot (List.mem_map.mpr ⟨(k₀, v), hkv, rfl⟩)

theorem readKeys_eq_ok {values : BTreeMap K V} (h : readKeys key map = .ok values) :
    ∃ es, readEntries key map.toList = .ok es ∧ values = ExtTreeMap.ofList es compare := by
  rw [readKeys] at h
  cases hread : (readEntries key map.toList : Parsed (List (K × V))) with
  | error e =>
    rw [hread] at h
    cases h
  | ok es =>
    rw [hread] at h
    cases h
    exact ⟨es, rfl, rfl⟩

/-- **A key of the pattern holds what the value under its name was read as.** -/
theorem getElem?_readKeys (hinj : ∀ k k' a, key k = some a → key k' = some a → k = k')
    {values : BTreeMap K V} (h : readKeys key map = .ok values) :
    values[a]? = some b ↔
      ∃ k v, map[k]? = some v ∧ key k = some a ∧ (fromJson v : Parsed V) = .ok b := by
  obtain ⟨es, hes, rfl⟩ := readKeys_eq_ok h
  rw [BTreeMap.getElem?_ofList
    (readEntries_keys_nodup hinj (BTreeMap.toList_keys_nodup map) hes), mem_readEntries hes]
  simp only [BTreeMap.mem_toList]

theorem exists_of_readKeys {values : BTreeMap K V} (h : readKeys key map = .ok values)
    (hk : (key k).isSome) (hv : map[k]? = some v) : ∃ b : V, fromJson v = .ok b := by
  obtain ⟨es, hes, -⟩ := readKeys_eq_ok h
  obtain ⟨a, ha⟩ := Option.isSome_iff_exists.mp hk
  exact exists_of_readEntries hes (BTreeMap.mem_toList.mpr hv) ha

/-- **What was read is written under the keys it was read of.** -/
theorem getElem?_writeKeys [ToCbor V] {name : K → String}
    (hname : ∀ k a, key k = some a → name a = k) {values : BTreeMap K V}
    (h : readKeys key map = .ok values) {c : Value} :
    (writeKeys name values)[k]? = some c ↔
      (key k).isSome ∧ ∃ v, map[k]? = some v ∧ ∃ b : V, fromJson v = .ok b ∧ toCbor b = c := by
  have hinj : ∀ k k' a, key k = some a → key k' = some a → k = k' := by
    intro k k' a hk hk'
    rw [← hname k a hk, hname k' a hk']
  have hkey : ∀ a ∈ values.toList.map Prod.fst, key (name a) = some a := by
    intro a ha
    obtain ⟨⟨a, b⟩, hmem, rfl⟩ := List.mem_map.mp ha
    obtain ⟨k, v, -, hk, -⟩ := (getElem?_readKeys hinj h).mp (BTreeMap.mem_toList.mp hmem)
    rw [hname k a hk, hk]
  have hnd : ((values.toList.map fun e => (name e.1, toCbor e.2)).map Prod.fst).Nodup := by
    have hkeys : (values.toList.map fun e => (name e.1, toCbor e.2)).map Prod.fst =
        (values.toList.map Prod.fst).map name := by
      rw [List.map_map, List.map_map]
      rfl
    rw [hkeys]
    refine List.Nodup.map_on ?_ (BTreeMap.toList_keys_nodup values)
    intro a ha a' ha' heq
    have hsome := hkey a ha
    rw [heq, hkey a' ha'] at hsome
    exact (Option.some.inj hsome).symm
  rw [writeKeys, BTreeMap.getElem?_ofList hnd, List.mem_map]
  constructor
  · rintro ⟨⟨a, b⟩, hmem, heq⟩
    cases heq
    obtain ⟨k, v, hv, hk, hb⟩ := (getElem?_readKeys hinj h).mp (BTreeMap.mem_toList.mp hmem)
    have hka := hname k a hk
    rw [hka]
    exact ⟨by rw [hk]; rfl, v, hv, b, hb, rfl⟩
  · rintro ⟨hk, v, hv, b, hb, rfl⟩
    obtain ⟨a, ha⟩ := Option.isSome_iff_exists.mp hk
    refine ⟨(a, b), BTreeMap.mem_toList.mpr ((getElem?_readKeys hinj h).mpr ⟨k, v, hv, ha, hb⟩), ?_⟩
    rw [hname k a ha]

end

/-! ### `age_over.rs` -/

/-- two digits -/
structure Age where
  first : Char
  second : Char
  isDigit : first.isDigit ∧ second.isDigit
  deriving DecidableEq

instance : Ord Age := ⟨compareLex (compareOn Age.first) (compareOn Age.second)⟩

instance : TransOrd Age :=
  inferInstanceAs (TransCmp (compareLex (compareOn Age.first) (compareOn Age.second)))

instance : LawfulEqOrd Age where
  eq_of_compare {a b} h := by
    obtain ⟨h₁, h₂⟩ := compareLex_eq_eq.mp h
    obtain ⟨x, y, hxy⟩ := a
    obtain ⟨x', y', hxy'⟩ := b
    cases LawfulEqOrd.eq_of_compare h₁
    cases LawfulEqOrd.eq_of_compare h₂
    rfl

def toAge (s : String) : Option Age :=
  match s.toList with
  | [first, second] =>
    if h : first.isDigit ∧ second.isDigit then some ⟨first, second, h⟩ else none
  | _ => none

theorem toAge_eq_some {s : String} {a : Age} : toAge s = some a ↔ s = .ofList [a.first, a.second] := by
  rw [toAge]
  constructor
  · intro h
    split at h
    · next first second hs =>
      split at h
      · cases h
        rw [← hs, String.ofList_toList]
      · cases h
    · cases h
  · rintro rfl
    obtain ⟨first, second, hdigit⟩ := a
    simp [hdigit]

namespace AgeOver

def key (k : String) : Option Age := (stripPrefix "age_over_" k).bind toAge
def name (a : Age) : String := "age_over_" ++ .ofList [a.first, a.second]

theorem key_eq_some {k : String} {a : Age} : key k = some a ↔ name a = k := by
  rw [key, Option.bind_eq_some_iff, name]
  constructor
  · rintro ⟨s, hs, ha⟩
    rw [← toAge_eq_some.mp ha]
    exact stripPrefix_eq_some.mp hs
  · intro h
    exact ⟨_, stripPrefix_eq_some.mpr h, toAge_eq_some.mpr rfl⟩

end AgeOver

/-- `age_over_xx` in the org.iso.18013.5.1 namespace. -/
def AgeOver : Type := BTreeMap Age Bool

def AgeOver.fromMap : JsonMap → Parsed AgeOver := readKeys AgeOver.key
def AgeOver.toNsMap : AgeOver → BTreeMap String Value := writeKeys AgeOver.name

instance : Keyed AgeOver where
  fromMap := AgeOver.fromMap
  toNsMap := AgeOver.toNsMap
  Owns k := (AgeOver.key k).isSome
  Element v c := ∃ b : Bool, fromJson v = .ok b ∧ toCbor b = c
  fromMap_congr := readKeys_congr
  toNsMap_iff h := getElem?_writeKeys (fun _ _ => AgeOver.key_eq_some.mp) h
  element_of_fromMap h hk hv :=
    have ⟨b, hb⟩ := exists_of_readKeys h hk hv
    ⟨_, b, hb, rfl⟩
  not_element_null := nofun

/-! ### `biometric_template.rs` -/

namespace BiometricTemplate

def key (k : String) : Option String := stripPrefix "biometric_template_" k
def name (k : String) : String := "biometric_template_" ++ k

end BiometricTemplate

/-- `biometric_template_xx` in the org.iso.18013.5.1 namespace. -/
def BiometricTemplate : Type := BTreeMap String ByteStr

def BiometricTemplate.fromMap [StandardBase64] : JsonMap → Parsed BiometricTemplate :=
  readKeys BiometricTemplate.key
def BiometricTemplate.toNsMap : BiometricTemplate → BTreeMap String Value :=
  writeKeys BiometricTemplate.name

instance [StandardBase64] : Keyed BiometricTemplate where
  fromMap := BiometricTemplate.fromMap
  toNsMap := BiometricTemplate.toNsMap
  Owns k := (BiometricTemplate.key k).isSome
  Element v c := ∃ b : ByteStr, fromJson v = .ok b ∧ toCbor b = c
  fromMap_congr := readKeys_congr
  toNsMap_iff h := getElem?_writeKeys (fun _ _ => stripPrefix_eq_some.mp) h
  element_of_fromMap h hk hv :=
    have ⟨b, hb⟩ := exists_of_readKeys h hk hv
    ⟨_, b, hb, rfl⟩
  not_element_null := nofun

end Isomdl
