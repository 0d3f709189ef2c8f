import Isomdl.Namespaces.OrgIso1801351
import Isomdl.Reference.Crypto

/-!
# The keys of a namespace map (`org_iso_18013_5_1/mod.rs`, `traits/from_json.rs`)

Reading an object and writing the namespace map keeps the keys: the elements of the map are those
that the object has a value for, whichever way it spells the absent ones.  The reader of
`issuing_jurisdiction` takes an absent entry for `None`, but refuses `null`.

* `reads_withoutNulls_iff`     an object without the `null`s of optional fields is read alike;
* `keyLaw_iff`                 when an object and its namespace map have the same keys.
-/

set_option linter.unusedSectionVars false

namespace Isomdl

open Cbor

namespace OrgIso1801351

section
variable [Rfc3339] [FullDateFormat] [StandardBase64] {map : JsonMap}

/-- the object without the `null`s of its optional fields -/
def withoutNulls (map : JsonMap) : JsonMap := Record.withoutNulls fields map

/-- `null` and nothing are read alike, and the namespace map has the keys of the object -/
structure KeyLaw (map : JsonMap) : Prop where
  /-- an optional field may be `null` or left out -/
  nulls (s : OrgIso1801351) :
    fromJson (.ofMap map) = .ok s ↔ fromJson (.ofMap (withoutNulls map)) = .ok s
  /-- the map has the recognised keys with a value -/
  keys {s : OrgIso1801351} : fromJson (.ofMap map) = .ok s →
    ∀ k, k ∈ toNsMap s ↔ Recognised k ∧ ∃ v, map[k]? = some v ∧ v ≠ .null
  /-- under each of them is the encoding of what its field read of its value -/
  values {s : OrgIso1801351} : fromJson (.ofMap map) = .ok s →
    ∀ k c, (toNsMap s)[k]? = some c ↔ Record.Recognises fields map k c

/-- the field takes no value of the object -/
def Refuses (f : Field) (map : JsonMap) : Prop := ∀ x, f.read map ≠ .ok x

theorem fromJson_eq_ok {s : OrgIso1801351} :
    fromJson (.ofMap map) = .ok s ↔ Record.Reads map fields s := Record.recordFromJson_eq_ok

/-- **What is read is written under the recognised keys.** -/
theorem keys_of_reads {s : OrgIso1801351} (h : Record.Reads map fields s) {k : String} :
    k ∈ toNsMap s ↔ Recognised k ∧ ∃ v, map[k]? = some v ∧ v ≠ .null := by
  have hsound := sound (isSome_country h)
  rw [BTreeMap.mem_iff_getElem?, recognised_iff]
  constructor
  · rintro ⟨c, hc⟩
    obtain ⟨f, hf, hown, v, hv, hnull, -⟩ := (Record.getElem?_toNsMap hsound keysDisjoint h).mp hc
    exact ⟨⟨f, hf, hown⟩, v, hv, hnull⟩
  · rintro ⟨⟨f, hf, hown⟩, v, hv, hnull⟩
    obtain ⟨x, hx⟩ := Record.exists_reads_iff.mp ⟨s, h⟩ f hf
    obtain ⟨c, hc⟩ := FieldType.exists_recognises (hsound f hf) hx hown hv hnull
    exact ⟨c, (Record.getElem?_toNsMap hsound keysDisjoint h).mpr ⟨f, hf, hc⟩⟩

/-- **An object without those `null`s is read alike**, when its jurisdiction is none of them. -/
theorem reads_withoutNulls_iff (hjurisdiction : map["issuing_jurisdiction"]? ≠ some .null)
    {s : OrgIso1801351} :
    Record.Reads map fields s ↔ Record.Reads (withoutNulls map) fields s :=
  Record.reads_congr fun _ hf => (read_withoutNulls hjurisdiction hf).symm

/-- the reader of the jurisdiction refuses `null` -/
theorem refuses_null (h : map["issuing_jurisdiction"]? = some .null) :
    Refuses ⟨"issuing_jurisdiction", .dynamicParse IssuingJurisdiction⟩ map := by
  intro x hx
  rcases fromMap_option_eq_ok.mp hx with ⟨-, hmissing⟩ | ⟨a, -, hval⟩
  · rw [IssuingJurisdiction.fromMap_null h] at hmissing
    cases hmissing
  · rw [IssuingJurisdiction.fromMap_null h] at hval
    cases hval

theorem jurisdiction_mem :
    (⟨"issuing_jurisdiction", .dynamicParse IssuingJurisdiction⟩ : Field) ∈ fields := by
  simp [fields]

/-- a field that refuses its value keeps the object from being read, with and without `null`s -/
theorem not_reads_of_refuses {f : Field} (hf : f ∈ fields) (hne : f.ident ≠ "issuing_jurisdiction")
    (hrefuses : Refuses f map) (s : OrgIso1801351) :
    ¬ Record.Reads map fields s ∧ ¬ Record.Reads (withoutNulls map) fields s := by
  have hdyn := (isDynamicParse_eq_false hf).mpr hne
  constructor
  · intro h
    obtain ⟨x, hx⟩ := Record.exists_reads_iff.mp ⟨s, h⟩ f hf
    exact hrefuses x hx
  · intro h
    obtain ⟨x, hx⟩ := Record.exists_reads_iff.mp ⟨s, h⟩ f hf
    rw [withoutNulls, Record.read_withoutNulls keysDisjoint hf hdyn] at hx
    exact hrefuses x hx

/-- without its `null` jurisdiction, the object is read when the other fields are -/
theorem exists_reads_withoutNulls (h : map["issuing_jurisdiction"]? = some .null)
    (hothers : ∀ f ∈ fields, f.ident ≠ "issuing_jurisdiction" → ∃ x, f.read map = .ok x) :
    ∃ s, Record.Reads (withoutNulls map) fields s := by
  refine Record.exists_reads_iff.mpr fun f hf => ?_
  by_cases hne : f.ident = "issuing_jurisdiction"
  · rw [eq_of_ident hf hne]
    have hname : "issuing_jurisdiction" ∈ Record.optionNames fields :=
      Record.mem_optionNames.mpr ⟨_, jurisdiction_mem, rfl, rfl⟩
    have habsent : (withoutNulls map)["issuing_jurisdiction"]? = none := by
      rw [withoutNulls, Record.getElem?_withoutNulls, if_pos hname, h]
      rfl
    have hmissing : (fromMap (withoutNulls map) : Parsed IssuingJurisdiction) = refuse .Missing :=
      IssuingJurisdiction.fromMap_missing habsent
    exact ⟨none, fromMap_option_eq_ok.mpr (.inl ⟨rfl, hmissing⟩)⟩
  · rw [withoutNulls, Record.read_withoutNulls keysDisjoint hf ((isDynamicParse_eq_false hf).mpr hne)]
    exact hothers f hf hne

/-- **When an object and its namespace map have the same keys**: unless its jurisdiction is `null`
and every other field takes its value. -/
theorem keyLaw_iff (map : JsonMap) :
    KeyLaw map ↔ map["issuing_jurisdiction"]? ≠ some .null ∨
      ∃ f ∈ fields, f.ident ≠ "issuing_jurisdiction" ∧ Refuses f map := by
  constructor
  · intro hlaw
    by_contra hcontra
    rw [not_or, not_not] at hcontra
    obtain ⟨hnull, hnone⟩ := hcontra
    obtain ⟨s, hs⟩ := exists_reads_withoutNulls hnull fun f hf hne => by
      by_contra hno
      exact hnone ⟨f, hf, hne, fun x hx => hno ⟨x, hx⟩⟩
    have hread := fromJson_eq_ok.mp ((hlaw.nulls s).mpr (fromJson_eq_ok.mpr hs))
    obtain ⟨x, hx⟩ := Record.exists_reads_iff.mp ⟨s, hread⟩ _ jurisdiction_mem
    exact refuses_null hnull x hx
  · intro h
    refine ⟨fun s => ?_, fun hs k => keys_of_reads (fromJson_eq_ok.mp hs), fun hs k c => ?_⟩
    · rw [fromJson_eq_ok, fromJson_eq_ok]
      rcases h with hjurisdiction | ⟨f, hf, hne, hrefuses⟩
      · exact reads_withoutNulls_iff hjurisdiction
      · obtain ⟨hnot, hnot'⟩ := not_reads_of_refuses hf hne hrefuses s
        exact iff_of_false hnot hnot'
    · have hreads := fromJson_eq_ok.mp hs
      exact Record.getElem?_toNsMap (sound (isSome_country hreads)) keysDisjoint hreads

end

end OrgIso1801351

/-! ## an object with a `null` jurisdiction -/

namespace Reference

/-- dates of four, two and two digits -/
scoped instance fullDateFormat : FullDateFormat where
  parse s :=
    match s.toList with
    | [y₁, y₂, y₃, y₄, '-', m₁, m₂, '-', d₁, d₂] =>
      match digits? [y₁, y₂, y₃, y₄], digits? [m₁, m₂], digits? [d₁, d₂] with
      | some year, some month, some day =>
        if civilFromDays (daysFromCivil year month day) = (year, month, day) then
          .ok ⟨year, month.toNat, day.toNat⟩
        else .error "a component was out of range"
      | _, _, _ => .error "the input could not be parsed"
    | _ => .error "the input could not be parsed"

/-- the last two characters of the standard alphabet, as those of the URL-safe one -/
def urlSafe (c : Char) : Char := if c = '+' then '-' else if c = '/' then '_' else c

scoped instance standardBase64 : StandardBase64 where
  decode s :=
    let chars := (s.toList.reverse.dropWhile fun c => c = '=').reverse
    if '-' ∈ chars ∨ '_' ∈ chars then .error "Invalid byte"
    else
      match decodeSextets (chars.map urlSafe) with
      | some bytes => .ok bytes
      | none => .error "Encoded text cannot have a 6-bit remainder."

end Reference

namespace OrgIso1801351

open scoped Reference

/-- an object with the mandatory elements, whose jurisdiction is `null` -/
def nullJurisdiction : JsonMap :=
  Std.ExtTreeMap.ofList
    [("family_name", .string "Smith"), ("given_name", .string "Alice"),
     ("birth_date", .string "1980-01-01"), ("issue_date", .string "2020-01-01T12:00:00Z"),
     ("expiry_date", .string "2030-01-01"), ("issuing_country", .string "US"),
     ("issuing_authority", .string "NY DMV"), ("document_number", .string "DL12345678"),
     ("portrait", .string "AQID"),
     ("driving_privileges", .array [.object [("vehicle_category_code", .string "A"),
       ("issue_date", .string "2020-01-01"), ("expiry_date", .string "2030-01-01")]]),
     ("un_distinguishing_sign", .string "USA"), ("age_over_18", .bool true),
     ("issuing_jurisdiction", .null)] compare

/-- **A `null` jurisdiction is refused** in an object that is read without it. -/
theorem keyLaw_not_always : ¬ KeyLaw nullJurisdiction := by
  intro hlaw
  have hwithout : (fromJson (.ofMap (withoutNulls nullJurisdiction))).isOk = true := by
    decide +kernel
  have hwith : (fromJson (.ofMap nullJurisdiction)).isOk = false := by decide +kernel
  cases hread : fromJson (.ofMap (withoutNulls nullJurisdiction)) with
  | error e =>
    rw [hread] at hwithout
    cases hwithout
  | ok s =>
    rw [(hlaw.nulls s).mpr hread] at hwith
    cases hwith

end OrgIso1801351

end Isomdl
