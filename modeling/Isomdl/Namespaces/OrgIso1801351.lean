import Isomdl.Namespaces.Elements

/-!
# The namespace `org.iso.18013.5.1` (`org_iso_18013_5_1/mod.rs`)

The struct as the list of its fields, from which the derive macros make its reader and its writer.
A key is recognised by one field at most, and no field but `issuing_jurisdiction` is read of more
than the values under its own keys.

* `recognised_iff`       the keys that the fields recognise;
* `keysDisjoint`         a key is recognised by one field;
* `read_withoutNulls`    what `issuing_jurisdiction` makes of an object without `null`s;
* `sound`                how each field takes an absent entry.
-/

set_option linter.unusedSectionVars false

namespace Isomdl

open Cbor

/-! ## types without a default -/

instance : Mandatory Latin1 := ⟨nofun, fun _ => rfl, nofun⟩
instance : Mandatory Alpha2 := ⟨nofun, fun _ => rfl, nofun⟩
instance : Mandatory UNDistinguishingSign := ⟨nofun, fun _ => rfl, nofun⟩

section
variable [Rfc3339] [FullDateFormat] [StandardBase64]

instance : Mandatory ByteStr := ⟨nofun, fun _ => rfl, nofun⟩
instance : Mandatory FullDate := ⟨nofun, fun _ => rfl, nofun⟩
instance : Mandatory TDateOrFullDate := ⟨nofun, fun _ => rfl, nofun⟩
instance : Mandatory DrivingPrivileges := ⟨nofun, fun _ => rfl, nofun⟩

/-! ## the struct -/

/-- the fields of `OrgIso1801351` -/
def OrgIso1801351.fields : List Field :=
  [⟨"family_name", .plain Latin1⟩,
   ⟨"given_name", .plain Latin1⟩,
   ⟨"birth_date", .plain FullDate⟩,
   ⟨"issue_date", .plain TDateOrFullDate⟩,
   ⟨"expiry_date", .plain TDateOrFullDate⟩,
   ⟨"issuing_country", .plain Alpha2⟩,
   ⟨"issuing_authority", .plain Latin1⟩,
   ⟨"document_number", .plain Latin1⟩,
   ⟨"portrait", .plain ByteStr⟩,
   ⟨"driving_privileges", .plain DrivingPrivileges⟩,
   ⟨"un_distinguishing_sign", .plain UNDistinguishingSign⟩,
   ⟨"administrative_number", .optional Latin1⟩,
   ⟨"sex", .optional Sex⟩,
   ⟨"height", .optional UInt32⟩,
   ⟨"weight", .optional UInt32⟩,
   ⟨"eye_colour", .optional EyeColour⟩,
   ⟨"hair_colour", .optional HairColour⟩,
   ⟨"birth_place", .optional Latin1⟩,
   ⟨"resident_address", .optional Latin1⟩,
   ⟨"portrait_capture_date", .optional TDate⟩,
   ⟨"age_in_years", .optional UInt32⟩,
   ⟨"age_birth_year", .optional UInt32⟩,
   ⟨"age_over_xx", .many AgeOver⟩,
   ⟨"issuing_jurisdiction", .dynamicParse IssuingJurisdiction⟩,
   ⟨"nationality", .optional Alpha2⟩,
   ⟨"resident_city", .optional Latin1⟩,
   ⟨"resident_state", .optional Latin1⟩,
   ⟨"resident_postal_code", .optional Latin1⟩,
   ⟨"resident_country", .optional Alpha2⟩,
   ⟨"biometric_template_xx", .many BiometricTemplate⟩,
   ⟨"family_name_national_character", .optional String⟩,
   ⟨"given_name_national_character", .optional String⟩,
   ⟨"signature_usual_mark", .optional ByteStr⟩]

/-- The `org.iso.18013.5.1` namespace. -/
abbrev OrgIso1801351 : Type := Record OrgIso1801351.fields

namespace OrgIso1801351

def fromJson : Json → Parsed OrgIso1801351 := recordFromJson fields
def toNsMap : OrgIso1801351 → BTreeMap String Value := recordToNsMap fields

/-- the names of the fields that have one key -/
def elementNames : List String :=
  ["family_name", "given_name", "birth_date", "issue_date", "expiry_date", "issuing_country",
   "issuing_authority", "document_number", "portrait", "driving_privileges",
   "un_distinguishing_sign", "administrative_number", "sex", "height", "weight", "eye_colour",
   "hair_colour", "birth_place", "resident_address", "portrait_capture_date", "age_in_years",
   "age_birth_year", "issuing_jurisdiction", "nationality", "resident_city", "resident_state",
   "resident_postal_code", "resident_country", "family_name_national_character",
   "given_name_national_character", "signature_usual_mark"]

/-- the name of a field, `age_over_` and two digits, or `biometric_template_` and any text -/
def Recognised (k : String) : Prop :=
  k ∈ elementNames ∨ (AgeOver.key k).isSome ∨ (BiometricTemplate.key k).isSome

/-! ## the keys of the fields -/

variable {f : Field} {k : String} {map map' : JsonMap}

theorem mem_elementNames :
    k ∈ elementNames ↔ ∃ f ∈ fields, f.type.isMany = false ∧ f.ident = k := by
  have heq : elementNames = (fields.filter fun f => !f.type.isMany).map Field.ident := rfl
  simp [heq, and_assoc]

theorem eq_of_isMany (hf : f ∈ fields) (h : f.type.isMany = true) :
    f = ⟨"age_over_xx", .many AgeOver⟩ ∨ f = ⟨"biometric_template_xx", .many BiometricTemplate⟩ := by
  have hmem : f ∈ fields.filter fun f => f.type.isMany := List.mem_filter.mpr ⟨hf, h⟩
  have hfilter : (fields.filter fun f => f.type.isMany) =
      [⟨"age_over_xx", .many AgeOver⟩, ⟨"biometric_template_xx", .many BiometricTemplate⟩] := rfl
  rw [hfilter, List.mem_cons, List.mem_singleton] at hmem
  exact hmem

theorem eq_of_isDynamicParse (hf : f ∈ fields) (h : f.type.isDynamicParse = true) :
    f = ⟨"issuing_jurisdiction", .dynamicParse IssuingJurisdiction⟩ := by
  have hmem : f ∈ fields.filter fun f => f.type.isDynamicParse := List.mem_filter.mpr ⟨hf, h⟩
  have hfilter : (fields.filter fun f => f.type.isDynamicParse) =
      [⟨"issuing_jurisdiction", .dynamicParse IssuingJurisdiction⟩] := rfl
  rw [hfilter, List.mem_singleton] at hmem
  exact hmem

theorem eq_of_ident (hf : f ∈ fields) (h : f.ident = "issuing_jurisdiction") :
    f = ⟨"issuing_jurisdiction", .dynamicParse IssuingJurisdiction⟩ := by
  have hmem : f ∈ fields.filter fun f => f.ident == "issuing_jurisdiction" :=
    List.mem_filter.mpr ⟨hf, beq_iff_eq.mpr h⟩
  have hfilter : (fields.filter fun f => f.ident == "issuing_jurisdiction") =
      [⟨"issuing_jurisdiction", .dynamicParse IssuingJurisdiction⟩] := rfl
  rw [hfilter, List.mem_singleton] at hmem
  exact hmem

/-- the field that is read of the whole object is `issuing_jurisdiction` -/
theorem isDynamicParse_eq_false (hf : f ∈ fields) :
    f.type.isDynamicParse = false ↔ f.ident ≠ "issuing_jurisdiction" := by
  constructor
  · rintro hdyn heq
    rw [eq_of_ident hf heq] at hdyn
    cases hdyn
  · intro hne
    cases hdyn : f.type.isDynamicParse with
    | false => rfl
    | true =>
      rw [eq_of_isDynamicParse hf hdyn] at hne
      exact absurd rfl hne

/-- **The keys that the fields recognise.** -/
theorem recognised_iff : Recognised k ↔ ∃ f ∈ fields, f.type.Owns f.ident k := by
  rw [Recognised, mem_elementNames]
  constructor
  · rintro (⟨f, hf, hmany, rfl⟩ | hk | hk)
    · exact ⟨f, hf, (FieldType.owns_iff hmany).mpr rfl⟩
    · exact ⟨⟨"age_over_xx", .many AgeOver⟩, by simp [fields], hk⟩
    · exact ⟨⟨"biometric_template_xx", .many BiometricTemplate⟩, by simp [fields], hk⟩
  · rintro ⟨f, hf, hown⟩
    cases hmany : f.type.isMany with
    | false => exact .inl ⟨f, hf, hmany, ((FieldType.owns_iff hmany).mp hown).symm⟩
    | true =>
      rcases eq_of_isMany hf hmany with rfl | rfl
      · exact .inr (.inl hown)
      · exact .inr (.inr hown)

/-- the patterns are not names of fields -/
theorem elementNames_not_keys :
    ∀ k ∈ elementNames, AgeOver.key k = none ∧ BiometricTemplate.key k = none := by
  decide +kernel

/-- no key has both patterns -/
theorem ageOver_apart (h : (AgeOver.key k).isSome) : BiometricTemplate.key k = none := by
  obtain ⟨a, ha⟩ := Option.isSome_iff_exists.mp h
  rw [← AgeOver.key_eq_some.mp ha, Option.eq_none_iff_forall_ne_some]
  intro s hs
  have heq := congrArg String.toList (stripPrefix_eq_some.mp hs)
  rw [AgeOver.name, String.toList_append, String.toList_append] at heq
  cases heq

/-- a name of a field is recognised by no field with a pattern -/
theorem not_owns_of_mem_elementNames (hf : f ∈ fields) (hmany : f.type.isMany = true)
    (hk : k ∈ elementNames) : ¬ f.type.Owns f.ident k := by
  obtain ⟨hage, hbiometric⟩ := elementNames_not_keys k hk
  intro hown
  rcases eq_of_isMany hf hmany with rfl | rfl
  · have hsome : (AgeOver.key k).isSome := hown
    rw [hage] at hsome
    cases hsome
  · have hsome : (BiometricTemplate.key k).isSome := hown
    rw [hbiometric] at hsome
    cases hsome

/-- **A key is recognised by one field.** -/
theorem keysDisjoint : Record.KeysDisjoint fields := by
  have hnodup : (fields.map Field.ident).Nodup := by
    simp only [fields, List.map_cons, List.map_nil]
    decide +kernel
  refine (List.pairwise_map.mp hnodup).imp_of_mem ?_
  intro f g hf hg hne k hfk hgk
  cases hmf : f.type.isMany with
  | false =>
    have hkf : k = f.ident := (FieldType.owns_iff hmf).mp hfk
    cases hmg : g.type.isMany with
    | false =>
      rw [(FieldType.owns_iff hmg).mp hgk] at hkf
      exact hne hkf.symm
    | true =>
      exact not_owns_of_mem_elementNames hg hmg (mem_elementNames.mpr ⟨f, hf, hmf, hkf.symm⟩) hgk
  | true =>
    cases hmg : g.type.isMany with
    | false =>
      have hkg : k = g.ident := (FieldType.owns_iff hmg).mp hgk
      exact not_owns_of_mem_elementNames hf hmf (mem_elementNames.mpr ⟨g, hg, hmg, hkg.symm⟩) hfk
    | true =>
      have hcross : (AgeOver.key k).isSome → ¬ (BiometricTemplate.key k).isSome := by
        intro hage hbiometric
        rw [ageOver_apart hage] at hbiometric
        cases hbiometric
      rcases eq_of_isMany hf hmf with rfl | rfl <;> rcases eq_of_isMany hg hmg with rfl | rfl
      · exact hne rfl
      · exact hcross hfk hgk
      · exact hcross hgk hfk
      · exact hne rfl

/-! ## absent entries and `null`s -/

/-- **How each field takes an absent entry, when there is a country.** -/
theorem sound (hcountry : (map["issuing_country"]?).isSome) : Record.Sound fields map := by
  have hdynamic : (FieldType.dynamicParse IssuingJurisdiction).Sound "issuing_jurisdiction" map := by
    refine ⟨IssuingJurisdiction.fromMap_missing_iff hcountry, fun hnull x => ?_⟩
    rw [IssuingJurisdiction.fromMap_null hnull]
    nofun
  simp only [Record.Sound, fields, List.forall_mem_cons, FieldType.Sound, true_and]
  exact ⟨inferInstance, inferInstance, inferInstance, inferInstance, inferInstance, inferInstance,
    inferInstance, inferInstance, inferInstance, inferInstance, inferInstance, hdynamic, nofun⟩

theorem country_mem : (⟨"issuing_country", .plain Alpha2⟩ : Field) ∈ fields := by simp [fields]

/-- a struct that is read has a country -/
theorem isSome_country {r : OrgIso1801351} (h : Record.Reads map fields r) :
    (map["issuing_country"]?).isSome := by
  obtain ⟨x, hx⟩ := Record.exists_reads_iff.mp ⟨r, h⟩ _ country_mem
  obtain ⟨v, hv, -⟩ := Mandatory.fromJsonOpt_eq_ok.mp hx
  exact Option.isSome_iff_exists.mpr ⟨v, hv⟩

/-- **The reader does not see the `null`s of the optional fields, `issuing_jurisdiction` apart.** -/
theorem read_withoutNulls (hjurisdiction : map["issuing_jurisdiction"]? ≠ some .null)
    (hf : f ∈ fields) : f.read (Record.withoutNulls fields map) = f.read map := by
  cases hdyn : f.type.isDynamicParse with
  | false => exact Record.read_withoutNulls keysDisjoint hf hdyn
  | true =>
    rw [eq_of_isDynamicParse hf hdyn]
    have hkept : (Record.withoutNulls fields map)["issuing_jurisdiction"]? =
        map["issuing_jurisdiction"]? := by
      rw [Record.getElem?_withoutNulls]
      split
      · cases hv : map["issuing_jurisdiction"]? with
        | none => rfl
        | some v =>
          have hnull : v.isNull = false := by
            rw [Json.isNull_eq_false]
            rintro rfl
            exact hjurisdiction hv
          simp [hnull]
      · rfl
    have hcountry : (Record.withoutNulls fields map)["issuing_country"]? =
        map["issuing_country"]? := by
      have hnot : "issuing_country" ∉ Record.optionNames fields :=
        fun hk => Bool.noConfusion (Record.isOptional_of_owns keysDisjoint country_mem rfl hk)
      rw [Record.getElem?_withoutNulls, if_neg hnot]
    exact congrArg missingAsNone (IssuingJurisdiction.fromMap_congr hkept hcountry)

end OrgIso1801351

end

end Isomdl
