import Isomdl.Definitions.Traits
import Mathlib.Data.List.Pairwise

/-!
# The derived readers and writers of a struct (`macros/src/from_json.rs`, `macros/src/to_cbor.rs`)

The two macros walk over the named fields of a struct, independently of each other.  Here a struct
is the list of its fields: the reader collects one value or error for each, the writer inserts
what each holds under its name.  A field of type `Option<_>` is written when it is there; one
marked `dynamic_parse` is read of the whole object; one marked `many` is read of and written
under the keys of its type.

* `FieldType.mem_entries_iff`       a field writes the entries it was read of;
* `Record.readFields_eq_ok`         a struct is read when each of its fields is;
* `Record.readFields_errors`        every error names its field;
* `Record.getElem?_toNsMap`         **the writer writes what the reader recognised;**
* `Record.read_withoutNulls`        a reader that does not see the `null`s of optional fields.
-/

set_option linter.unusedSectionVars false

namespace Isomdl

open Cbor

/-- a type with several keys of an object: which ones it reads, and what their values become -/
class Keyed (T : Type) extends FromJsonMap T, ToNamespaceMap T where
  Owns : String → Prop
  Element : Json → Value → Prop
  fromMap_congr {map map' : JsonMap} :
    (∀ k, Owns k → map[k]? = map'[k]?) → fromMap map = fromMap map'
  toNsMap_iff {map : JsonMap} {x : T} {k : String} {c : Value} :
    fromMap map = .ok x → ((toNsMap x)[k]? = some c ↔ Owns k ∧ ∃ v, map[k]? = some v ∧ Element v c)
  element_of_fromMap {map : JsonMap} {x : T} {k : String} {v : Json} :
    fromMap map = .ok x → Owns k → map[k]? = some v → ∃ c, Element v c
  not_element_null {c : Value} : ¬ Element .null c

/-- the type of a field, with the attributes that the macros look at -/
inductive FieldType : Type 1 where
  | plain (T : Type) [FromJson T] [ToCbor T]
  | optional (T : Type) [FromJson T] [ToCbor T]
  | dynamicParse (T : Type) [FromJsonMap T] [ToCbor T]
  | many (T : Type) [Keyed T]

namespace FieldType

/-- the type of the field: those marked `dynamic_parse` are `Option`s, like the optional ones -/
def Carrier : FieldType → Type
  | @plain T _ _ => T
  | @optional T _ _ => Option T
  | @dynamicParse T _ _ => Option T
  | @many T _ => T

/-- `is_optional`: the type is an `Option` -/
def isOptional : FieldType → Bool
  | @plain _ _ _ | @many _ _ => false
  | @optional _ _ _ | @dynamicParse _ _ _ => true

/-- `is_many` -/
def isMany : FieldType → Bool
  | @many _ _ => true
  | @plain _ _ _ | @optional _ _ _ | @dynamicParse _ _ _ => false

/-- the field is an option and read of the whole object -/
def isDynamicParse : FieldType → Bool
  | @dynamicParse _ _ _ => true
  | @plain _ _ _ | @optional _ _ _ | @many _ _ => false

/-- the conversion in `from_json` -/
def read (ident : String) : (t : FieldType) → JsonMap → Parsed t.Carrier
  | @plain T _ _, map => (fromJsonOpt map[ident]? : Parsed T)
  | @optional T _ _, map => (fromJsonOpt map[ident]? : Parsed (Option T))
  | @dynamicParse T _ _, map => (fromMap map : Parsed (Option T))
  | @many T _, map => (fromMap map : Parsed T)

/-- `map.insert`, for a value that is there -/
def insertSome (ident : String) (map : BTreeMap String Value) : Option Value → BTreeMap String Value
  | some v => map.insert ident v
  | none => map

/-- the conversion in `to_ns_map` -/
def write (ident : String) :
    (t : FieldType) → t.Carrier → BTreeMap String Value → BTreeMap String Value
  | @plain T _ _, x, map => map.insert ident (toCbor (α := T) x)
  | @optional T _ _, x, map => insertSome ident map (Option.map (toCbor (α := T)) x)
  | @dynamicParse T _ _, x, map => insertSome ident map (Option.map (toCbor (α := T)) x)
  | @many T _, x, map => map.insertMany (toNsMap (α := T) x).toList

end FieldType

/-- a named field -/
structure Field where
  ident : String
  type : FieldType

abbrev Field.Carrier (f : Field) : Type := f.type.Carrier
def Field.read (f : Field) (map : JsonMap) : Parsed f.Carrier := f.type.read f.ident map

/-- a struct with these fields -/
def Record : List Field → Type
  | [] => Unit
  | f :: fs => f.Carrier × Record fs

/-! ## `from_json.rs` -/

/-- an error is kept for later, a panic stops the reader -/
def withContext {α : Type} (ident : String) : Parsed α → Except Stop (Except FromJsonError α)
  | .ok a => .ok (.ok a)
  | .error (.refused e) => .ok (.error (.WithContext ident e))
  | .error .panicked => .error .panicked

/-- the struct of the values that were read, or the errors of the fields that were not -/
def collectField {α β : Type} :
    Except FromJsonError α → Except (List FromJsonError) β → Except (List FromJsonError) (α × β)
  | .ok a, .ok b => .ok (a, b)
  | .ok _, .error es => .error es
  | .error e, .ok _ => .error [e]
  | .error e, .error es => .error (e :: es)

/-- the conversions of the fields, in their order -/
def readFields (map : JsonMap) :
    (fs : List Field) → Except Stop (Except (List FromJsonError) (Record fs))
  | [] => .ok (.ok ())
  | f :: fs => do
    let value ← withContext f.ident (f.read map)
    let rest ← readFields map fs
    .ok (collectField value rest)

/-- the result of a reader that has collected its errors -/
def finish {α : Type} : Except (List FromJsonError) α → Parsed α
  | .ok a => .ok a
  | .error [e] => refuse e
  | .error errors => refuse (.Multiple errors)

/-- the derived `from_json` -/
def recordFromJson (fs : List Field) : Json → Parsed (Record fs)
  | .object entries => do
    let fields ← readFields (Std.ExtTreeMap.ofList entries compare) fs
    finish fields
  | v => unexpected v "object"

/-! ## `to_cbor.rs` -/

def writeFields : (fs : List Field) → Record fs → BTreeMap String Value → BTreeMap String Value
  | [], _, map => map
  | f :: fs, (x, r), map => writeFields fs r (f.type.write f.ident x map)

/-- the derived `to_ns_map` -/
def recordToNsMap (fs : List Field) (r : Record fs) : BTreeMap String Value := writeFields fs r ∅

/-- the derived `to_cbor` -/
def recordToCbor (fs : List Field) (r : Record fs) : Value :=
  .map ((recordToNsMap fs r).toList.map fun e => (.text e.1, e.2))

instance {fs : List Field} : FromJson (Record fs) where
  fromJson := recordFromJson fs

instance {fs : List Field} : ToNamespaceMap (Record fs) := ⟨recordToNsMap fs⟩
instance {fs : List Field} : ToCbor (Record fs) := ⟨recordToCbor fs⟩

/-! ## what a field reads and writes -/

/-- a type without a default: it takes neither an absent entry nor `null` -/
class Mandatory (T : Type) [FromJson T] : Prop where
  fromJsonOpt_none (x : T) : fromJsonOpt none ≠ .ok x
  fromJsonOpt_some (v : Json) : (fromJsonOpt (some v) : Parsed T) = fromJson v
  fromJson_null (x : T) : fromJson .null ≠ .ok x

theorem Mandatory.fromJsonOpt_eq_ok {T : Type} [FromJson T] [Mandatory T] {o : Option Json}
    {x : T} : fromJsonOpt o = .ok x ↔ ∃ v, o = some v ∧ v ≠ .null ∧ fromJson v = .ok x := by
  cases o with
  | none => simp [fromJsonOpt_none]
  | some v =>
    rw [fromJsonOpt_some]
    constructor
    · intro h
      refine ⟨v, rfl, ?_, h⟩
      rintro rfl
      exact fromJson_null x h
    · rintro ⟨_, heq, -, h⟩
      cases heq
      exact h

namespace FieldType

variable {ident k : String} {t : FieldType} {map : JsonMap}

/-- the keys that a field recognises -/
def Owns (ident : String) : FieldType → String → Prop
  | @plain _ _ _, k | @optional _ _ _, k | @dynamicParse _ _ _, k => k = ident
  | @many T _, k => Keyed.Owns T k

theorem isMany_of_isOptional (h : t.isOptional) : t.isMany = false := by
  cases t with
  | plain T => rfl
  | optional T => rfl
  | dynamicParse T => rfl
  | many T => cases h

theorem owns_iff (h : t.isMany = false) : t.Owns ident k ↔ k = ident := by
  cases t with
  | plain T => exact Iff.rfl
  | optional T => exact Iff.rfl
  | dynamicParse T => exact Iff.rfl
  | many T => cases h

/-- `c` encodes what the field reads of the value `v` in the object `map` -/
def Element : FieldType → JsonMap → Json → Value → Prop
  | @plain T _ _, _, v, c => ∃ x : T, fromJson v = .ok x ∧ toCbor x = c
  | @optional T _ _, _, v, c => ∃ x : T, fromJson v = .ok x ∧ toCbor x = c
  | @dynamicParse T _ _, map, _, c => ∃ x : T, fromMap map = .ok x ∧ toCbor x = c
  | @many T _, _, v, c => Keyed.Element T v c

/-- the value of `k` is there, and `c` encodes what the field reads of it -/
def Recognises (ident : String) (t : FieldType) (map : JsonMap) (k : String) (c : Value) : Prop :=
  t.Owns ident k ∧ ∃ v, map[k]? = some v ∧ v ≠ .null ∧ t.Element map v c

/-- only an optional field takes an absent entry, and it does not report it as an error -/
def Sound (ident : String) (map : JsonMap) : FieldType → Prop
  | @plain T _ _ => Mandatory T
  | @dynamicParse T _ _ =>
    ((fromMap map : Parsed T) = refuse .Missing ↔ map[ident]? = none) ∧
      (map[ident]? = some .null → ∀ x : T, fromMap map ≠ .ok x)
  | @optional _ _ _ | @many _ _ => True

def someEntry (ident : String) : Option Value → List (String × Value)
  | some v => [(ident, v)]
  | none => []

/-- the entries that a field inserts -/
def entries (ident : String) : (t : FieldType) → t.Carrier → List (String × Value)
  | @plain T _ _, x => [(ident, toCbor (α := T) x)]
  | @optional T _ _, x => someEntry ident (Option.map (toCbor (α := T)) x)
  | @dynamicParse T _ _, x => someEntry ident (Option.map (toCbor (α := T)) x)
  | @many T _, x => (toNsMap (α := T) x).toList

theorem insertSome_eq (out : BTreeMap String Value) (o : Option Value) :
    insertSome ident out o = out.insertMany (someEntry ident o) := by
  cases o with
  | none => rfl
  | some v => rfl

theorem write_eq (x : t.Carrier) (out : BTreeMap String Value) :
    t.write ident x out = out.insertMany (t.entries ident x) := by
  cases t with
  | plain T => exact (BTreeMap.insertMany_cons out ident _ []).symm
  | optional T => exact insertSome_eq out _
  | dynamicParse T => exact insertSome_eq out _
  | many T => rfl

theorem someEntry_keys_nodup (o : Option Value) : ((someEntry ident o).map Prod.fst).Nodup := by
  cases o with
  | none => exact List.nodup_nil
  | some v => exact List.nodup_singleton ident

theorem entries_keys_nodup (x : t.Carrier) : ((t.entries ident x).map Prod.fst).Nodup := by
  cases t with
  | plain T => exact List.nodup_singleton ident
  | optional T => exact someEntry_keys_nodup _
  | dynamicParse T => exact someEntry_keys_nodup _
  | many T => exact BTreeMap.toList_keys_nodup _

theorem mem_someEntry {o : Option Value} {c : Value} :
    (k, c) ∈ someEntry ident o ↔ k = ident ∧ o = some c := by
  cases o with
  | none => simp [someEntry]
  | some v => simp [someEntry, eq_comm]

section
variable {T : Type} [ToCbor T] {c : Value}

/-- what a mandatory value becomes, in terms of the entry it was read of -/
theorem encodes_mandatory [FromJson T] [Mandatory T] {o : Option Json} {x : T}
    (h : fromJsonOpt o = .ok x) :
    toCbor x = c ↔ ∃ v, o = some v ∧ v ≠ .null ∧ ∃ y : T, fromJson v = .ok y ∧ toCbor y = c := by
  obtain ⟨v, rfl, hnull, hval⟩ := Mandatory.fromJsonOpt_eq_ok.mp h
  constructor
  · intro hc
    exact ⟨v, rfl, hnull, x, hval, hc⟩
  · rintro ⟨w, hw, -, y, hy, hc⟩
    cases hw
    rw [hval] at hy
    cases hy
    exact hc

theorem encodes_optional [FromJson T] {o : Option Json} {x : Option T}
    (h : fromJsonOpt o = .ok x) :
    x.map toCbor = some c ↔
      ∃ v, o = some v ∧ v ≠ .null ∧ ∃ y : T, fromJson v = .ok y ∧ toCbor y = c := by
  rcases fromJsonOpt_option_eq_ok.mp h with ⟨rfl, habsent⟩ | ⟨v, a, rfl, hnull, rfl, hval⟩
  · refine iff_of_false nofun ?_
    rintro ⟨w, rfl, hnull, -⟩
    rcases habsent with heq | heq
    · cases heq
    · cases heq
      exact hnull rfl
  · constructor
    · intro hc
      exact ⟨v, rfl, hnull, a, hval, Option.some.inj hc⟩
    · rintro ⟨w, hw, -, y, hy, rfl⟩
      cases hw
      rw [hval] at hy
      cases hy
      rfl

theorem encodes_dynamicParse [FromJsonMap T] {x : Option T}
    (hmissing : (fromMap map : Parsed T) = refuse .Missing ↔ map[ident]? = none)
    (hnull : map[ident]? = some .null → ∀ y : T, fromMap map ≠ .ok y) (h : fromMap map = .ok x) :
    x.map toCbor = some c ↔
      ∃ v, map[ident]? = some v ∧ v ≠ .null ∧ ∃ y : T, fromMap map = .ok y ∧ toCbor y = c := by
  rcases fromMap_option_eq_ok.mp h with ⟨rfl, habsent⟩ | ⟨a, rfl, hval⟩
  · refine iff_of_false nofun ?_
    rintro ⟨w, hw, -⟩
    rw [hmissing.mp habsent] at hw
    cases hw
  · constructor
    · intro hc
      cases hv : map[ident]? with
      | none =>
        rw [hmissing.mpr hv] at hval
        cases hval
      | some v =>
        refine ⟨v, rfl, ?_, a, hval, Option.some.inj hc⟩
        rintro rfl
        exact hnull hv a hval
    · rintro ⟨w, -, -, y, hy, rfl⟩
      rw [hval] at hy
      cases hy
      rfl

end

/-- **A field writes the entries it was read of.** -/
theorem mem_entries_iff {x : t.Carrier} (hsound : t.Sound ident map) (h : t.read ident map = .ok x)
    {c : Value} : (k, c) ∈ t.entries ident x ↔ t.Recognises ident map k c := by
  cases t with
  | plain T =>
    have hmand : Mandatory T := hsound
    have hmem : (k, c) ∈ entries ident (plain T) x ↔ k = ident ∧ toCbor (α := T) x = c := by
      simp [entries, eq_comm]
    rw [hmem]
    refine and_congr_right ?_
    rintro rfl
    exact encodes_mandatory h
  | optional T =>
    have hmem : (k, c) ∈ entries ident (optional T) x ↔
        k = ident ∧ Option.map (toCbor (α := T)) x = some c := mem_someEntry
    rw [hmem]
    refine and_congr_right ?_
    rintro rfl
    exact encodes_optional h
  | dynamicParse T =>
    obtain ⟨hmissing, hnull⟩ := hsound
    have hmem : (k, c) ∈ entries ident (dynamicParse T) x ↔
        k = ident ∧ Option.map (toCbor (α := T)) x = some c := mem_someEntry
    rw [hmem]
    refine and_congr_right ?_
    rintro rfl
    exact encodes_dynamicParse hmissing hnull h
  | many T =>
    have hmem : (k, c) ∈ entries ident (many T) x ↔ (toNsMap (α := T) x)[k]? = some c :=
      BTreeMap.mem_toList
    rw [hmem, Keyed.toNsMap_iff h]
    refine and_congr_right fun _ => exists_congr fun v => and_congr_right fun _ => ?_
    refine iff_and_self.mpr ?_
    rintro helem rfl
    exact Keyed.not_element_null helem

/-- every value that a field recognises has an encoding -/
theorem exists_recognises {x : t.Carrier} (hsound : t.Sound ident map)
    (h : t.read ident map = .ok x) (hown : t.Owns ident k) {v : Json} (hv : map[k]? = some v)
    (hnull : v ≠ .null) : ∃ c, t.Recognises ident map k c := by
  suffices helem : ∃ c, t.Element map v c by
    obtain ⟨c, hc⟩ := helem
    exact ⟨c, hown, v, hv, hnull, hc⟩
  cases t with
  | plain T =>
    cases hown
    have hmand : Mandatory T := hsound
    obtain ⟨w, hw, -, hval⟩ := Mandatory.fromJsonOpt_eq_ok.mp h
    rw [hv] at hw
    cases hw
    exact ⟨_, x, hval, rfl⟩
  | optional T =>
    cases hown
    rcases fromJsonOpt_option_eq_ok.mp h with ⟨-, habsent⟩ | ⟨w, a, hw, -, -, hval⟩
    · rw [hv] at habsent
      rcases habsent with heq | heq
      · cases heq
      · cases heq
        exact absurd rfl hnull
    · rw [hv] at hw
      cases hw
      exact ⟨_, a, hval, rfl⟩
  | dynamicParse T =>
    cases hown
    rcases fromMap_option_eq_ok.mp h with ⟨-, habsent⟩ | ⟨a, -, hval⟩
    · rw [hsound.1.mp habsent] at hv
      cases hv
    · exact ⟨_, a, hval, rfl⟩
  | many T => exact Keyed.element_of_fromMap h hown hv

end FieldType

/-! ## what a struct reads and writes -/

namespace Record

/-- the fields of a struct are what the conversions of an object return -/
def Reads (map : JsonMap) : (fs : List Field) → Record fs → Prop
  | [], _ => True
  | f :: fs, (x, r) => f.read map = .ok x ∧ Reads map fs r

section
variable {fs : List Field} {map map' : JsonMap} {k : String}

theorem withContext_eq_ok {α : Type} (ident : String) {p : Parsed α} {a : α} :
    withContext ident p = .ok (.ok a) ↔ p = .ok a := by
  cases p with
  | ok b => simp [withContext]
  | error e => cases e <;> simp [withContext]

theorem collectField_eq_ok {α β : Type} {value : Except FromJsonError α}
    {rest : Except (List FromJsonError) β} {p : α × β} :
    collectField value rest = .ok p ↔ value = .ok p.1 ∧ rest = .ok p.2 := by
  obtain ⟨a, b⟩ := p
  cases value <;> cases rest <;> simp [collectField]

theorem finish_eq_ok {α : Type} {p : Except (List FromJsonError) α} {a : α} :
    finish p = .ok a ↔ p = .ok a := by
  cases p with
  | ok b => simp [finish]
  | error es =>
    rcases es with _ | ⟨e, _ | ⟨e', es⟩⟩ <;> simp [finish, refuse]

/-- **A struct is read when each of its fields is.** -/
theorem readFields_eq_ok {r : Record fs} :
    readFields map fs = .ok (.ok r) ↔ Reads map fs r := by
  induction fs with
  | nil => exact iff_of_true rfl trivial
  | cons f fs ih =>
    obtain ⟨x, r⟩ := r
    have hcons : Reads map (f :: fs) (x, r) ↔ f.read map = .ok x ∧ Reads map fs r := Iff.rfl
    have hread := withContext_eq_ok f.ident (p := f.read map) (a := x)
    rw [hcons, ← ih, ← hread, readFields]
    cases withContext f.ident (f.read map) with
    | error e => simp [bind, Except.bind]
    | ok value =>
      cases readFields map fs with
      | error e => simp [bind, Except.bind]
      | ok rest =>
        constructor
        · intro h
          obtain ⟨rfl, rfl⟩ := collectField_eq_ok.mp (Except.ok.inj h)
          exact ⟨rfl, rfl⟩
        · rintro ⟨hvalue, hrest⟩
          cases hvalue
          cases hrest
          rfl

/-- **Every error names the field that it comes from.** -/
theorem readFields_errors {errors : List FromJsonError}
    (h : readFields map fs = .ok (.error errors)) :
    ∀ e ∈ errors, ∃ f ∈ fs, ∃ e', f.read map = .error (.refused e') ∧
      e = .WithContext f.ident e' := by
  induction fs generalizing errors with
  | nil => cases h
  | cons f fs ih =>
    rw [readFields] at h
    have hrest : ∀ es, readFields map fs = .ok (.error es) → ∀ e ∈ es, ∃ g ∈ f :: fs, ∃ e',
        g.read map = .error (.refused e') ∧ e = .WithContext g.ident e' := by
      intro es hes e he
      obtain ⟨g, hg, hread⟩ := ih hes e he
      exact ⟨g, List.mem_cons_of_mem f hg, hread⟩
    cases hf : f.read map with
    | ok a =>
      rw [hf] at h
      cases hfs : readFields map fs with
      | error stop =>
        rw [hfs] at h
        cases h
      | ok rest =>
        rw [hfs] at h
        cases rest with
        | ok r => cases h
        | error es =>
          cases h
          exact hrest _ hfs
    | error stop =>
      rw [hf] at h
      cases stop with
      | panicked => cases h
      | refused e₀ =>
        have hhead : ∃ g ∈ f :: fs, ∃ e', g.read map = .error (.refused e') ∧
            FromJsonError.WithContext f.ident e₀ = .WithContext g.ident e' :=
          ⟨f, List.mem_cons_self, e₀, hf, rfl⟩
        cases hfs : readFields map fs with
        | error stop =>
          rw [hfs] at h
          cases h
        | ok rest =>
          rw [hfs] at h
          cases rest with
          | ok r =>
            cases h
            intro e he
            rw [List.mem_singleton.mp he]
            exact hhead
          | error es =>
            cases h
            intro e he
            rcases List.mem_cons.mp he with rfl | he
            · exact hhead
            · exact hrest es hfs e he

theorem recordFromJson_eq_ok {r : Record fs} :
    recordFromJson fs (.ofMap map) = .ok r ↔ Reads map fs r := by
  rw [Json.ofMap, recordFromJson, BTreeMap.ofList_toList, ← readFields_eq_ok]
  cases readFields map fs with
  | error e => simp [bind, Except.bind]
  | ok fields =>
    have hfinish : finish fields = .ok r ↔ fields = .ok r := finish_eq_ok
    simpa [bind, Except.bind] using hfinish

theorem exists_reads_iff : (∃ r, Reads map fs r) ↔ ∀ f ∈ fs, ∃ x, f.read map = .ok x := by
  induction fs with
  | nil => exact iff_of_true ⟨(), trivial⟩ (fun _ h => absurd h List.not_mem_nil)
  | cons f fs ih =>
    rw [List.forall_mem_cons, ← ih]
    constructor
    · rintro ⟨⟨x, r⟩, hx, hr⟩
      exact ⟨⟨x, hx⟩, r, hr⟩
    · rintro ⟨⟨x, hx⟩, r, hr⟩
      exact ⟨(x, r), hx, hr⟩

theorem reads_congr (h : ∀ f ∈ fs, f.read map = f.read map') {r : Record fs} :
    Reads map fs r ↔ Reads map' fs r := by
  induction fs with
  | nil => exact Iff.rfl
  | cons f fs ih =>
    obtain ⟨x, r⟩ := r
    rw [List.forall_mem_cons] at h
    exact and_congr (by rw [h.1]) (ih h.2)

/-! ### the keys that the writer inserts -/

/-- no key is recognised by both fields -/
def KeysApart (f g : Field) : Prop := ∀ k, f.type.Owns f.ident k → ¬ g.type.Owns g.ident k

instance : Std.Symm KeysApart := ⟨fun _ _ h k hg hf => h k hf hg⟩

def KeysDisjoint (fs : List Field) : Prop := fs.Pairwise KeysApart

/-- some field recognises the key, and `c` encodes what it reads of its value -/
def Recognises (fs : List Field) (map : JsonMap) (k : String) (c : Value) : Prop :=
  ∃ f ∈ fs, f.type.Recognises f.ident map k c

def Sound (fs : List Field) (map : JsonMap) : Prop := ∀ f ∈ fs, f.type.Sound f.ident map

/-- the entries that the fields insert, in their order -/
def entries : (fs : List Field) → Record fs → List (String × Value)
  | [], _ => []
  | f :: fs, (x, r) => f.type.entries f.ident x ++ entries fs r

theorem writeFields_eq (r : Record fs) (out : BTreeMap String Value) :
    writeFields fs r out = out.insertMany (entries fs r) := by
  induction fs generalizing out with
  | nil => rfl
  | cons f fs ih =>
    obtain ⟨x, r⟩ := r
    rw [writeFields, entries, ih, FieldType.write_eq, Std.ExtTreeMap.insertMany_append]

theorem mem_entries_iff {r : Record fs} (hsound : Sound fs map) (h : Reads map fs r)
    {c : Value} : (k, c) ∈ entries fs r ↔ Recognises fs map k c := by
  induction fs with
  | nil => simp [entries, Recognises]
  | cons f fs ih =>
    obtain ⟨x, r⟩ := r
    obtain ⟨hx, hr⟩ := h
    obtain ⟨hf, hfs⟩ := List.forall_mem_cons.mp hsound
    rw [entries, List.mem_append, FieldType.mem_entries_iff hf hx, ih hfs hr]
    simp [Recognises]

theorem entries_keys_nodup {r : Record fs} (hsound : Sound fs map) (hdisj : KeysDisjoint fs)
    (h : Reads map fs r) : ((entries fs r).map Prod.fst).Nodup := by
  induction fs with
  | nil => exact List.nodup_nil
  | cons f fs ih =>
    obtain ⟨x, r⟩ := r
    obtain ⟨hx, hr⟩ := h
    obtain ⟨hf, hfs⟩ := List.forall_mem_cons.mp hsound
    obtain ⟨hne, hdisj⟩ := List.pairwise_cons.mp hdisj
    rw [entries, List.map_append]
    refine List.nodup_append'.mpr ⟨FieldType.entries_keys_nodup x, ih hfs hdisj hr, ?_⟩
    intro k hk hk'
    obtain ⟨⟨k, c⟩, hmem, rfl⟩ := List.mem_map.mp hk
    obtain ⟨⟨k', c'⟩, hmem', rfl⟩ := List.mem_map.mp hk'
    obtain ⟨g, hg, hown, -⟩ := (mem_entries_iff hfs hr).mp hmem'
    exact hne g hg k' ((FieldType.mem_entries_iff hf hx).mp hmem).1 hown

/-- **The writer writes what the reader recognised.** -/
theorem getElem?_toNsMap {r : Record fs} (hsound : Sound fs map) (hdisj : KeysDisjoint fs)
    (h : Reads map fs r) {c : Value} :
    (recordToNsMap fs r)[k]? = some c ↔ Recognises fs map k c := by
  rw [recordToNsMap, writeFields_eq, BTreeMap.insertMany_empty,
    BTreeMap.getElem?_ofList (entries_keys_nodup hsound hdisj h),
    mem_entries_iff hsound h]

/-! ### objects without the `null`s of optional fields -/

/-- the names of the fields with an `Option` type -/
def optionNames (fs : List Field) : List String :=
  (fs.filter fun f => f.type.isOptional).map Field.ident

/-- the object without the `null`s under these names -/
def withoutNulls (fs : List Field) (map : JsonMap) : JsonMap :=
  map.filter fun k v => !((optionNames fs).contains k && v.isNull)

theorem getElem?_withoutNulls :
    (withoutNulls fs map)[k]? =
      if k ∈ optionNames fs then (map[k]?).filter fun v => !v.isNull else map[k]? := by
  rw [withoutNulls, Std.ExtTreeMap.getElem?_filter']
  by_cases hk : k ∈ optionNames fs
  · simp [hk]
  · cases map[k]? <;> simp [hk]

theorem mem_optionNames : k ∈ optionNames fs ↔ ∃ f ∈ fs, f.type.isOptional ∧ f.ident = k := by
  simp [optionNames, and_assoc]

/-- only an optional field recognises the name of one -/
theorem isOptional_of_owns (hdisj : KeysDisjoint fs) {f : Field} (hf : f ∈ fs)
    (hown : f.type.Owns f.ident k) (hk : k ∈ optionNames fs) : f.type.isOptional := by
  obtain ⟨g, hg, hopt, rfl⟩ := mem_optionNames.mp hk
  by_cases hfg : f = g
  · rw [hfg]
    exact hopt
  · have hown' := (FieldType.owns_iff (FieldType.isMany_of_isOptional hopt) (k := g.ident)).mpr rfl
    exact absurd hown' (hdisj.forall hf hg hfg g.ident hown)

/-- **A field that does not read the whole object does not see those `null`s.** -/
theorem read_withoutNulls (hdisj : KeysDisjoint fs) {f : Field} (hf : f ∈ fs)
    (hdyn : f.type.isDynamicParse = false) : f.read (withoutNulls fs map) = f.read map := by
  have hkept : f.type.isOptional = false → ∀ k, f.type.Owns f.ident k →
      (withoutNulls fs map)[k]? = map[k]? := by
    intro hopt k hown
    rw [getElem?_withoutNulls, if_neg]
    intro hk
    rw [isOptional_of_owns hdisj hf hown hk] at hopt
    cases hopt
  obtain ⟨ident, t⟩ := f
  cases t with
  | plain T =>
    show (fromJsonOpt (withoutNulls fs map)[ident]? : Parsed T) = fromJsonOpt map[ident]?
    rw [hkept rfl ident rfl]
  | optional T =>
    have hmem : ident ∈ optionNames fs := mem_optionNames.mpr ⟨_, hf, rfl, rfl⟩
    show (fromJsonOpt (withoutNulls fs map)[ident]? : Parsed (Option T)) = fromJsonOpt map[ident]?
    rw [getElem?_withoutNulls, if_pos hmem, ← fromJsonOpt_option]
  | dynamicParse T => cases hdyn
  | many T => exact Keyed.fromMap_congr (hkept rfl)

end

end Record

end Isomdl
