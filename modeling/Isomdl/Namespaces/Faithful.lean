import Isomdl.Decoding
import Isomdl.Namespaces.OrgIso1801351

/-!
# What a namespace says (`traits/from_json.rs`, `traits/to_cbor.rs`)

A data item says what a JSON value does when it has the same texts and numbers in the same places:
a date is tagged, and an object keeps the entries with a name that is known and a value.  Which
places those are is the shape of the type, that has the names of its structs.  A type is faithful to
a shape when what it reads of a value is written as an item that says the same, and its reader does
not panic.  Structs of such fields are faithful to the shape with their names.

* `fromList_spells`              lists;
* `Record.IsFaithful.spells`     structs;
* `Record.IsFaithful.recordFromJson_cases`
                                 a struct is read, or the fields that are not are reported.
-/

set_option linter.unusedSectionVars false

namespace Isomdl

open Cbor

/-! ## the relation -/

/-- the texts, the numbers and the dates of a type, and the names of its structs -/
inductive Shape where
  | text
  | number
  | fullDate
  | array (item : Shape)
  | object (known : List (String × Shape))

/-- the data item spells, in the places of the shape, what the JSON value does -/
inductive Spells [FullDateFormat] : Shape → Json → Value → Prop
  | text (s : String) : Spells .text (.string s) (.text s)
  | number (n : UInt32) : Spells .number (.number n.toNat) (.ofUInt64 n.toUInt64)
  | fullDate {s : String} {date : Date} (h : FullDateFormat.parse s = .ok date) :
    Spells .fullDate (.string s) (.tag 1004 (.text (FullDate.display ⟨date⟩)))
  /-- as many items as values, in their order -/
  | array {item : Shape} {vs : List Json} {cs : List Value} (hlength : vs.length = cs.length)
    (hitems : ∀ {v : Json} {c : Value}, (v, c) ∈ vs.zip cs → Spells item v c) :
    Spells (.array item) (.array vs) (.array cs)
  /-- the entries with a known name and a value, under the same names -/
  | object {known : List (String × Shape)} {entries : List (String × Json)}
    {out : BTreeMap String Value}
    (hkeys : ∀ k : String, k ∈ out ↔ k ∈ known.map Prod.fst ∧
      ∃ v, (Std.ExtTreeMap.ofList entries compare : JsonMap)[k]? = some v ∧ v ≠ .null)
    (hvalues : ∀ (k : String) (shape : Shape) (v : Json) (c : Value), (k, shape) ∈ known →
      (Std.ExtTreeMap.ofList entries compare : JsonMap)[k]? = some v → out[k]? = some c →
        Spells shape v c) :
    Spells (.object known) (.object entries) (.map (out.toList.map fun e => (.text e.1, e.2)))

/-- what is read of a value is written as an item that says the same -/
class Faithful (T : Type) (shape : outParam Shape) [FullDateFormat] [FromJson T] [ToCbor T] :
    Prop where
  spells {v : Json} {x : T} : fromJson v = .ok x → Spells shape v (toCbor x)
  not_panics (v : Json) : (fromJson v : Parsed T) ≠ .error .panicked
  absent_not_panics : (fromJsonOpt none : Parsed T) ≠ .error .panicked

/-! ## texts, numbers and lists -/

theorem string_eq_ok {v : Json} {s : String} (h : (fromJson v : Parsed String) = .ok s) :
    v = .string s := by
  cases v with
  | string t =>
    cases h
    rfl
  | _ => cases h

theorem u32_eq_ok {v : Json} {n : UInt32} (h : (fromJson v : Parsed UInt32) = .ok n) :
    v = .number n.toNat := by
  cases v with
  | number i =>
    have hread : readU32 i = .ok n := h
    unfold readU32 at hread
    split at hread
    · split at hread
      · cases hread
        have hlt : i.toNat < UInt32.size := by
          have hsize : UInt32.size = 2 ^ 32 := rfl
          omega
        rw [UInt32.toNat_ofNat_of_lt' hlt, Int.toNat_of_nonneg (by omega)]
      · cases hread
    · cases hread
  | _ => cases h

theorem string_not_panics (v : Json) : (fromJson v : Parsed String) ≠ .error .panicked := by
  cases v <;> nofun

theorem u32_not_panics (v : Json) : (fromJson v : Parsed UInt32) ≠ .error .panicked := by
  cases v with
  | number i =>
    show readU32 i ≠ _
    unfold readU32
    split
    · split <;> nofun
    · nofun
  | _ => nofun

theorem bind_not_panics {α β : Type} {p : Parsed α} {g : α → Parsed β} (hp : p ≠ .error .panicked)
    (hg : ∀ a, g a ≠ .error .panicked) : (p >>= g) ≠ .error .panicked := by
  cases p with
  | ok a => exact hg a
  | error e =>
    cases e with
    | refused e => nofun
    | panicked => exact absurd rfl hp

theorem map_not_panics {α β : Type} {p : Parsed α} (g : α → β) (hp : p ≠ .error .panicked) :
    g <$> p ≠ .error .panicked := by
  cases p with
  | ok a => nofun
  | error e =>
    cases e with
    | refused e => nofun
    | panicked => exact absurd rfl hp

theorem parsing_not_panics {α : Type} (r : Except ParsingError α) : parsing r ≠ .error .panicked := by
  cases r <;> nofun

theorem parsing_eq_ok {α : Type} {r : Except ParsingError α} {a : α} :
    parsing r = .ok a ↔ r = .ok a := by
  cases r <;> simp [parsing, refuse]

theorem fromText_not_panics {α : Type} (fromStr : String → Except ParsingError α) (v : Json) :
    fromText fromStr v ≠ .error .panicked :=
  bind_not_panics (string_not_panics v) fun s => parsing_not_panics (fromStr s)

section
variable [FullDateFormat]

instance : Faithful String .text where
  spells h := by
    rw [string_eq_ok h]
    exact .text _
  not_panics := string_not_panics
  absent_not_panics := nofun

/-- a value that is read of a text, and written as the same text -/
theorem fromText_spells {α : Type} {fromStr : String → Except ParsingError α} {toText : α → String}
    (h : ∀ s a, fromStr s = .ok a → toText a = s) {v : Json} {a : α}
    (hv : fromText fromStr v = .ok a) : Spells .text v (.text (toText a)) := by
  obtain ⟨s, hs, ha⟩ := bind_eq_ok hv
  rw [string_eq_ok hs, h s a (parsing_eq_ok.mp ha)]
  exact .text s

/-- a value that is read of a number, and written as the same number -/
theorem fromU32_spells {α : Type} {tryFrom : UInt32 → Except ParsingError α} {toNumber : α → UInt32}
    (h : ∀ n a, tryFrom n = .ok a → toNumber a = n) {v : Json} {a : α}
    (hv : ((fromJson v : Parsed UInt32) >>= fun n => parsing (tryFrom n)) = .ok a) :
    Spells .number v (.ofUInt64 (toNumber a).toUInt64) := by
  obtain ⟨n, hn, ha⟩ := bind_eq_ok hv
  rw [u32_eq_ok hn, h n a (parsing_eq_ok.mp ha)]
  exact .number n

instance : Faithful Latin1 .text where
  spells := fromText_spells fun s l h => by
    unfold Latin1.fromStr at h
    split at h
    · split at h
      · cases h
        rfl
      · cases h
    · cases h
  not_panics := fromText_not_panics _
  absent_not_panics := nofun

instance : Faithful FullDate .fullDate where
  spells {v d} h := by
    obtain ⟨s, hs, hd⟩ := bind_eq_ok h
    have hparse := parsing_eq_ok.mp hd
    dsimp only at hparse
    rw [string_eq_ok hs]
    cases hdate : FullDateFormat.parse s with
    | error e =>
      rw [hdate] at hparse
      cases hparse
    | ok date =>
      rw [hdate] at hparse
      cases hparse
      exact .fullDate hdate
  not_panics := fromText_not_panics _
  absent_not_panics := nofun

theorem forall₂_spells {shape : Shape} {vs : List Json} {cs : List Value}
    (h : List.Forall₂ (Spells shape) vs cs) : Spells (.array shape) (.array vs) (.array cs) := by
  obtain ⟨hlength, hitems⟩ := List.forall₂_iff_zip.mp h
  exact .array hlength hitems

section
variable {T : Type} {shape : Shape} [FromJson T] [ToCbor T] [hfaithful : Faithful T shape]

include hfaithful

theorem mapM_spells {vs : List Json} {xs : List T} (h : vs.mapM fromJson = (.ok xs : Parsed (List T))) :
    List.Forall₂ (Spells shape) vs (xs.map toCbor) := by
  induction vs generalizing xs with
  | nil =>
    cases h
    exact .nil
  | cons v vs ih =>
    rw [List.mapM_cons] at h
    obtain ⟨x, hx, h⟩ := bind_eq_ok h
    obtain ⟨rest, hrest, h⟩ := bind_eq_ok h
    cases h
    exact .cons (hfaithful.spells hx) (ih hrest)

theorem mapM_not_panics (vs : List Json) : (vs.mapM fromJson : Parsed (List T)) ≠ .error .panicked := by
  induction vs with
  | nil => nofun
  | cons v vs ih =>
    rw [List.mapM_cons]
    exact bind_not_panics (hfaithful.not_panics v) fun x => bind_not_panics ih fun xs => nofun

/-- **A list says what its values say.** -/
theorem fromList_spells {v : Json} {xs : List T} (h : (fromJson v : Parsed (List T)) = .ok xs) :
    Spells (.array shape) v (.array (xs.map toCbor)) := by
  cases v with
  | array vs => exact forall₂_spells (mapM_spells h)
  | _ => cases h

theorem fromList_not_panics (v : Json) : (fromJson v : Parsed (List T)) ≠ .error .panicked := by
  cases v with
  | array vs => exact mapM_not_panics vs
  | _ => nofun

theorem fromNonEmptyVec_spells {v : Json} {xs : NonEmptyVec T}
    (h : (fromJson v : Parsed (NonEmptyVec T)) = .ok xs) :
    Spells (.array shape) v (.array (xs.toList.map toCbor)) := by
  obtain ⟨l, hl, hxs⟩ := bind_eq_ok h
  have hlist : l = xs.toList := by
    cases hvec : NonEmptyVec.tryFrom l with
    | none =>
      rw [hvec] at hxs
      cases hxs
    | some w =>
      rw [hvec] at hxs
      cases hxs
      exact NonEmptyVec.tryFrom_eq_some.mp hvec
  rw [← hlist]
  exact fromList_spells hl

theorem fromNonEmptyVec_not_panics (v : Json) :
    (fromJson v : Parsed (NonEmptyVec T)) ≠ .error .panicked := by
  refine bind_not_panics (fromList_not_panics v) fun l => ?_
  cases NonEmptyVec.tryFrom l <;> nofun

end

/-! ## structs -/

/-- a field of a faithful type, with a reader that takes no absent entry unless it is optional -/
def FieldType.Faithful : FieldType → Shape → Prop
  | @plain T _ _, shape => Mandatory T ∧ Isomdl.Faithful T shape
  | @optional T _ _, shape => Isomdl.Faithful T shape
  | @dynamicParse _ _ _, _ | @many _ _, _ => False

/-- a field of the known name, and of its shape -/
def Field.Faithful (f : Field) (known : String × Shape) : Prop :=
  f.ident = known.1 ∧ f.type.Faithful known.2

theorem plain_faithful {ident : String} {T : Type} {shape : Shape} [FromJson T] [ToCbor T]
    [hmandatory : Mandatory T] [hfaithful : Faithful T shape] :
    Field.Faithful ⟨ident, .plain T⟩ (ident, shape) :=
  ⟨rfl, hmandatory, hfaithful⟩

theorem optional_faithful {ident : String} {T : Type} {shape : Shape} [FromJson T] [ToCbor T]
    [hfaithful : Faithful T shape] : Field.Faithful ⟨ident, .optional T⟩ (ident, shape) :=
  ⟨rfl, hfaithful⟩

namespace FieldType.Faithful

variable {t : FieldType} {shape : Shape}

theorem owns_iff (h : t.Faithful shape) {ident k : String} : t.Owns ident k ↔ k = ident := by
  cases t with
  | plain T => exact Iff.rfl
  | optional T => exact Iff.rfl
  | dynamicParse T => cases h
  | many T => cases h

theorem sound (h : t.Faithful shape) (ident : String) (map : JsonMap) : t.Sound ident map := by
  cases t with
  | plain T => exact h.1
  | optional T => exact trivial
  | dynamicParse T => cases h
  | many T => cases h

theorem spells (h : t.Faithful shape) {map : JsonMap} {v : Json} {c : Value}
    (hc : t.Element map v c) : Spells shape v c := by
  cases t with
  | plain T =>
    obtain ⟨x, hx, rfl⟩ := hc
    have hfaithful : Isomdl.Faithful T shape := h.2
    exact hfaithful.spells hx
  | optional T =>
    obtain ⟨x, hx, rfl⟩ := hc
    have hfaithful : Isomdl.Faithful T shape := h
    exact hfaithful.spells hx
  | dynamicParse T => cases h
  | many T => cases h

end FieldType.Faithful

namespace Record

variable {fs : List Field} {known : List (String × Shape)} {map : JsonMap}

/-- fields with the known names, one each, of types that are faithful to their shapes -/
structure IsFaithful (fs : List Field) (known : List (String × Shape)) : Prop where
  fields : List.Forall₂ Field.Faithful fs known
  nodup : (known.map Prod.fst).Nodup

theorem idents_eq (h : List.Forall₂ Field.Faithful fs known) :
    fs.map Field.ident = known.map Prod.fst := by
  induction h with
  | nil => rfl
  | cons hf hfs ih => rw [List.map_cons, List.map_cons, hf.1, ih]

theorem exists_shape (h : List.Forall₂ Field.Faithful fs known) {f : Field} (hf : f ∈ fs) :
    ∃ shape, (f.ident, shape) ∈ known ∧ f.type.Faithful shape := by
  induction h with
  | nil => cases hf
  | @cons g e gs es hg hgs ih =>
    rcases List.mem_cons.mp hf with rfl | hf
    · refine ⟨e.2, ?_, hg.2⟩
      rw [hg.1]
      exact List.mem_cons_self
    · obtain ⟨shape, hmem, hshape⟩ := ih hf
      exact ⟨shape, List.mem_cons_of_mem _ hmem, hshape⟩

theorem IsFaithful.type (h : IsFaithful fs known) {f : Field} (hf : f ∈ fs) :
    ∃ shape, f.type.Faithful shape := by
  obtain ⟨shape, -, hshape⟩ := exists_shape h.fields hf
  exact ⟨shape, hshape⟩

theorem IsFaithful.owns_iff (h : IsFaithful fs known) {f : Field} (hf : f ∈ fs) {k : String} :
    f.type.Owns f.ident k ↔ k = f.ident := by
  obtain ⟨shape, hshape⟩ := h.type hf
  exact hshape.owns_iff

theorem IsFaithful.keysDisjoint (h : IsFaithful fs known) : KeysDisjoint fs := by
  have hnodup : (fs.map Field.ident).Nodup := by
    rw [idents_eq h.fields]
    exact h.nodup
  have hne : fs.Pairwise fun f g => f.ident ≠ g.ident := List.pairwise_map.mp hnodup
  refine hne.imp_of_mem fun {f g} hf hg hfg k hk hk' => hfg ?_
  rw [← (h.owns_iff hf).mp hk, ← (h.owns_iff hg).mp hk']

theorem IsFaithful.sound (h : IsFaithful fs known) (map : JsonMap) : Sound fs map := by
  intro f hf
  obtain ⟨shape, hshape⟩ := h.type hf
  exact hshape.sound f.ident map

/-- **What is written under a key is what its field read there.** -/
theorem IsFaithful.getElem? (h : IsFaithful fs known) {r : Record fs} (hr : Reads map fs r)
    {k : String} {shape : Shape} (hk : (k, shape) ∈ known) {c : Value}
    (hc : (recordToNsMap fs r)[k]? = some c) : ∃ v, map[k]? = some v ∧ Spells shape v c := by
  obtain ⟨f, hf, hown, v, hv, -, helement⟩ :=
    (getElem?_toNsMap (h.sound map) h.keysDisjoint hr).mp hc
  rw [(h.owns_iff hf).mp hown] at hk hv ⊢
  obtain ⟨shape', hk', hfaithful⟩ := exists_shape h.fields hf
  -- a name has one shape
  have hshape : (f.ident, shape) = (f.ident, shape') :=
    List.inj_on_of_nodup_map h.nodup hk hk' rfl
  cases hshape
  exact ⟨v, hv, hfaithful.spells helement⟩

/-- **What is written are the known names that have a value.** -/
theorem IsFaithful.mem_iff (h : IsFaithful fs known) {r : Record fs} (hr : Reads map fs r)
    (k : String) : k ∈ recordToNsMap fs r ↔
      k ∈ known.map Prod.fst ∧ ∃ v, map[k]? = some v ∧ v ≠ .null := by
  rw [BTreeMap.mem_iff_getElem?, ← idents_eq h.fields]
  constructor
  · intro hmem
    obtain ⟨c, hc⟩ := hmem
    obtain ⟨f, hf, hown, v, hv, hnull, -⟩ :=
      (getElem?_toNsMap (h.sound map) h.keysDisjoint hr).mp hc
    rw [(h.owns_iff hf).mp hown] at hv ⊢
    exact ⟨List.mem_map_of_mem hf, v, hv, hnull⟩
  · intro hmem
    obtain ⟨hname, v, hv, hnull⟩ := hmem
    obtain ⟨f, hf, rfl⟩ := List.mem_map.mp hname
    obtain ⟨x, hx⟩ := exists_reads_iff.mp ⟨r, hr⟩ f hf
    obtain ⟨c, hc⟩ := FieldType.exists_recognises (h.sound map f hf) hx
      ((h.owns_iff hf).mpr rfl) hv hnull
    exact ⟨c, (getElem?_toNsMap (h.sound map) h.keysDisjoint hr).mpr ⟨f, hf, hc⟩⟩

theorem readFields_congr {map' : JsonMap} (h : ∀ f ∈ fs, f.read map = f.read map') :
    readFields map fs = readFields map' fs := by
  induction fs with
  | nil => rfl
  | cons f fs ih =>
    obtain ⟨hf, hfs⟩ := List.forall_mem_cons.mp h
    rw [readFields, readFields, hf, ih hfs]

theorem reads_of_recordFromJson {entries : List (String × Json)} {r : Record fs}
    (h : recordFromJson fs (.object entries) = .ok r) :
    Reads (Std.ExtTreeMap.ofList entries compare) fs r := by
  obtain ⟨fields, hfields, hr⟩ := bind_eq_ok h
  rw [finish_eq_ok.mp hr] at hfields
  exact readFields_eq_ok.mp hfields

/-- **A struct says what its object does.** -/
theorem IsFaithful.spells (h : IsFaithful fs known) {v : Json} {r : Record fs}
    (hr : recordFromJson fs v = .ok r) : Spells (.object known) v (recordToCbor fs r) := by
  cases v with
  | object entries =>
    have hreads := reads_of_recordFromJson hr
    refine .object (h.mem_iff hreads) fun k shape v c hk hv hc => ?_
    obtain ⟨w, hw, hspells⟩ := h.getElem? hreads hk hc
    rw [hv] at hw
    cases hw
    exact hspells
  | _ => cases hr

theorem IsFaithful.read_not_panics (h : IsFaithful fs known) {f : Field} (hf : f ∈ fs)
    (map : JsonMap) : f.read map ≠ .error .panicked := by
  obtain ⟨shape, hfaithful⟩ := h.type hf
  obtain ⟨ident, t⟩ := f
  cases t with
  | plain T =>
    have hmandatory : Mandatory T := hfaithful.1
    have htype : Faithful T shape := hfaithful.2
    show (fromJsonOpt map[ident]? : Parsed T) ≠ _
    cases map[ident]? with
    | none => exact htype.absent_not_panics
    | some v =>
      rw [hmandatory.fromJsonOpt_some]
      exact htype.not_panics v
  | optional T =>
    have htype : Faithful T shape := hfaithful
    show (fromJsonOpt map[ident]? : Parsed (Option T)) ≠ _
    cases map[ident]? with
    | none => nofun
    | some v =>
      cases v with
      | null => nofun
      | _ => exact map_not_panics some (htype.not_panics _)
  | dynamicParse T => cases hfaithful
  | many T => cases hfaithful

/-! ### what is refused -/

/-- the error of a field that is not read -/
def refusal (map : JsonMap) (f : Field) : Option FromJsonError :=
  match f.read map with
  | .error (.refused e) => some (.WithContext f.ident e)
  | _ => none

/-- one error alone, or several together -/
def report : List FromJsonError → FromJsonError
  | [e] => e
  | errors => .Multiple errors

theorem finish_error {α : Type} (errors : List FromJsonError) :
    (finish (.error errors) : Parsed α) = refuse (report errors) := by
  rcases errors with _ | ⟨e, _ | ⟨e', errors⟩⟩ <;> rfl

theorem readFields_cases (h : ∀ f ∈ fs, f.read map ≠ .error .panicked) :
    (fs.filterMap (refusal map) = [] ∧ ∃ r, readFields map fs = .ok (.ok r)) ∨
      (fs.filterMap (refusal map) ≠ [] ∧
        readFields map fs = .ok (.error (fs.filterMap (refusal map)))) := by
  induction fs with
  | nil => exact .inl ⟨rfl, (), rfl⟩
  | cons f fs ih =>
    obtain ⟨hf, hfs⟩ := List.forall_mem_cons.mp h
    rw [readFields, List.filterMap_cons]
    cases hread : f.read map with
    | ok a =>
      have hrefusal : refusal map f = none := by
        unfold refusal
        rw [hread]
      rw [hrefusal]
      rcases ih hfs with ⟨hnil, r, hr⟩ | ⟨hne, hr⟩
      · exact .inl ⟨hnil, (a, r), by rw [hr]; rfl⟩
      · exact .inr ⟨hne, by rw [hr]; rfl⟩
    | error stop =>
      cases stop with
      | panicked => exact absurd hread hf
      | refused e =>
        have hrefusal : refusal map f = some (.WithContext f.ident e) := by
          unfold refusal
          rw [hread]
        rw [hrefusal]
        refine .inr ⟨List.cons_ne_nil _ _, ?_⟩
        rcases ih hfs with ⟨hnil, r, hr⟩ | ⟨hne, hr⟩
        · rw [hr, hnil]
          rfl
        · rw [hr]
          rfl

/-- **A struct is read, or reports the fields that are not**: each by its name, in their order. -/
theorem IsFaithful.recordFromJson_cases (h : IsFaithful fs known)
    (entries : List (String × Json)) :
    let refusals := fs.filterMap (refusal (Std.ExtTreeMap.ofList entries compare))
    (refusals = [] ∧ ∃ r, recordFromJson fs (.object entries) = .ok r) ∨
      (refusals ≠ [] ∧ recordFromJson fs (.object entries) = refuse (report refusals)) := by
  intro refusals
  rcases readFields_cases fun f hf => h.read_not_panics hf _ with ⟨hnil, r, hr⟩ | ⟨hne, hr⟩
  · refine .inl ⟨hnil, r, ?_⟩
    rw [recordFromJson, hr]
    rfl
  · refine .inr ⟨hne, ?_⟩
    rw [recordFromJson, hr]
    exact finish_error refusals

theorem IsFaithful.not_panics (h : IsFaithful fs known) (v : Json) :
    recordFromJson fs v ≠ .error .panicked := by
  cases v with
  | object entries =>
    rcases h.recordFromJson_cases entries with ⟨-, r, hr⟩ | ⟨-, hr⟩
    · rw [hr]
      nofun
    · rw [hr]
      nofun
  | _ => nofun

theorem IsFaithful.faithful (h : IsFaithful fs known) : Faithful (Record fs) (.object known) where
  spells := h.spells
  not_panics := h.not_panics
  absent_not_panics := nofun

end Record

end

end Isomdl
