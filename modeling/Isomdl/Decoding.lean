import Isomdl.Cose.Wire
import Isomdl.Definitions.DeviceResponse
import Mathlib.Data.List.Forall2

/-!
# What a decoded value keeps

`ciborium` reads an item back up to its floats and bignums (`Value.Similar`).  `Decodes R` says
that whatever is read from an encoding is related by `R` to the value that was encoded, and there
is one rule for each way a type is put together.

* `Decodes.list`, `Decodes.map`          sequences and maps, element by element;
* `Decodes.tag24`                        an embedded item keeps its bytes;
* `Fields.required_decodes`              a field of a struct;
* `decodes_issuerSigned`, `decodes_deviceResponse`
                                         what a reader gets of what an issuer signed.
-/

set_option linter.unusedSectionVars false

namespace Isomdl

open Cbor

/-- a result whose value passes a check -/
theorem exists_ok_of_any {E α : Type} {x : Except E α} {check : α → Bool}
    (h : x.toOption.any check = true) : ∃ a, x = .ok a ∧ check a = true := by
  cases x with
  | error e => cases h
  | ok a => exact ⟨a, rfl, h⟩

/-- what is read from the encoding of `a` is related to `a` -/
def Decodes {α β : Type} [Serialize α] [Deserialize β] (R : α → β → Prop) : Prop :=
  ∀ ⦃a : α⦄ ⦃v w : Value⦄ ⦃b : β⦄, toValue a = .ok v → v.Similar w → ofValue w = .ok b → R a b

theorem bind_eq_ok {E α β : Type} {x : Except E α} {f : α → Except E β} {b : β}
    (h : (x >>= f) = .ok b) : ∃ a, x = .ok a ∧ f a = .ok b := by
  cases x with
  | error e => cases h
  | ok a => exact ⟨a, rfl, h⟩

theorem mapError_eq_ok {E F α : Type} {x : Except E α} {f : E → F} {a : α}
    (h : x.mapError f = .ok a) : x = .ok a := by
  cases x with
  | error e => cases h
  | ok b => exact congrArg Except.ok (Except.ok.inj h)

theorem map_eq_ok {E α β : Type} {x : Except E α} {f : α → β} {b : β}
    (h : f <$> x = .ok b) : ∃ a, x = .ok a ∧ f a = b := by
  cases x with
  | error e => cases h
  | ok a => exact ⟨a, rfl, Except.ok.inj h⟩

/-- **The bytes that were written are read back related.** -/
theorem Decodes.fromSlice [Ciborium] [FaithfulCiborium] {α β : Type} [Serialize α] [Deserialize β]
    {R : α → β → Prop} (hR : Decodes R) {a : α} {bytes : Bytes} {b : β}
    (henc : toVec a = .ok bytes) (hdec : Isomdl.fromSlice β bytes = .ok b) : R a b := by
  obtain ⟨v, hv, rfl⟩ := toVec_eq_ok henc
  obtain ⟨w, hw, hb⟩ := fromSlice_eq_ok hdec
  exact hR hv (FaithfulCiborium.similar hw) hb

theorem Decodes.mono {α β : Type} [Serialize α] [Deserialize β] {R S : α → β → Prop}
    (hR : Decodes R) (h : ∀ a b, R a b → S a b) : Decodes S := by
  intro a v w b hv hsim hw
  exact h a b (hR hv hsim hw)

/-! ## leaves -/

theorem decodes_string : Decodes fun s t : String => t = s := by
  intro s v w t hv hsim hw
  cases hv
  have htext : w = .text s := hsim
  subst htext
  exact (Except.ok.inj hw).symm

theorem decodes_byteStr : Decodes fun b c : ByteStr => c = b := by
  intro b v w c hv hsim hw
  cases hv
  have hbytes : w = .bytes b.bytes := hsim
  subst hbytes
  exact (Except.ok.inj hw).symm

theorem decodes_value : Decodes fun v w : Value => v.Similar w := by
  intro v v' w w' hv hsim hw
  cases hv
  cases hw
  exact hsim

theorem DigestId.ofValue_ofInt32 (d : DigestId) :
    (ofValue (Value.ofInt32 d.toInt32) : Except String DigestId) = .ok d := by
  have hbounds : boundedInt (-(2 ^ 31)) (2 ^ 31 - 1) (Value.ofInt32 d.toInt32) =
      .ok d.toInt32.toInt := by
    have hle := d.toInt32.le_toInt
    have hlt := d.toInt32.toInt_lt
    have hrange : -(2 ^ 31) ≤ d.toInt32.toInt ∧ d.toInt32.toInt ≤ 2 ^ 31 - 1 := by omega
    exact if_pos hrange
  show (fun i => (⟨Int32.ofInt i⟩ : DigestId)) <$> boundedInt (-(2 ^ 31)) (2 ^ 31 - 1) _ = _
  rw [hbounds]
  show Except.ok (⟨Int32.ofInt d.toInt32.toInt⟩ : DigestId) = _
  rw [Int32.ofInt_toInt]

theorem decodes_digestId : Decodes fun d e : DigestId => e = d := by
  intro d v w e hv hsim hw
  cases hv
  have hint : w = Value.ofInt32 d.toInt32 := hsim
  subst hint
  rw [d.ofValue_ofInt32] at hw
  exact (Except.ok.inj hw).symm

/-! ## sequences and maps -/

theorem mapM_forall₂ {E α β : Type} {f : α → Except E β} {l : List α} {l' : List β}
    (h : l.mapM f = .ok l') : List.Forall₂ (fun a b => f a = .ok b) l l' := by
  induction l generalizing l' with
  | nil =>
    cases h
    exact .nil
  | cons a l ih =>
    rw [List.mapM_cons] at h
    obtain ⟨b, hb, h⟩ := bind_eq_ok h
    obtain ⟨bs, hbs, h⟩ := bind_eq_ok h
    cases h
    exact .cons hb (ih hbs)

theorem similarList_forall₂ {vs ws : List Value} (h : Value.SimilarList vs ws) :
    List.Forall₂ Value.Similar vs ws := by
  induction vs generalizing ws with
  | nil =>
    cases h
    exact .nil
  | cons v vs ih =>
    obtain ⟨w, ws, rfl, hsim, hrest⟩ := h
    exact .cons hsim (ih hrest)

theorem similarEntries_forall₂ {vs ws : List (Value × Value)} (h : Value.SimilarEntries vs ws) :
    List.Forall₂ (fun e e' => e.1.Similar e'.1 ∧ e.2.Similar e'.2) vs ws := by
  induction vs generalizing ws with
  | nil =>
    cases h
    exact .nil
  | cons e vs ih =>
    obtain ⟨l, w, ws, rfl, hkey, hvalue, hrest⟩ := h
    exact .cons ⟨hkey, hvalue⟩ (ih hrest)

/-- written, read back alike, and decoded -/
theorem forall₂_decoded {α V β : Type} {P : α → V → Prop} {Q : V → V → Prop} {S : V → β → Prop}
    {R : α → β → Prop} (h : ∀ a v w b, P a v → Q v w → S w b → R a b) {l : List α} {vs ws : List V}
    {l' : List β} (hP : List.Forall₂ P l vs) (hQ : List.Forall₂ Q vs ws)
    (hS : List.Forall₂ S ws l') : List.Forall₂ R l l' := by
  induction hP generalizing ws l' with
  | nil =>
    cases hQ
    cases hS
    exact .nil
  | cons ha _ ih =>
    cases hQ with
    | cons hv hvs =>
      cases hS with
      | cons hw hws => exact .cons (h _ _ _ _ ha hv hw) (ih hvs hws)

section
variable {α β : Type} [Serialize α] [Deserialize β] {R : α → β → Prop}

/-- **A list reads back element by element.** -/
theorem Decodes.list (hR : Decodes R) : Decodes (List.Forall₂ R) := by
  intro l v w l' hv hsim hw
  obtain ⟨vs, hvs, rfl⟩ := map_eq_ok hv
  obtain ⟨ws, rfl, hsim⟩ := hsim
  refine forall₂_decoded ?_ (mapM_forall₂ hvs) (similarList_forall₂ hsim) (mapM_forall₂ hw)
  intro a v w b ha hsim hb
  exact hR ha hsim hb

theorem Decodes.nonEmptyVec (hR : Decodes R) :
    Decodes fun (l : NonEmptyVec α) (l' : List β) => List.Forall₂ R l.toList l' := by
  intro l v w l' hv hsim hw
  exact hR.list hv hsim hw

theorem Decodes.toNonEmptyVec {R : α → List β → Prop} (hR : Decodes R) :
    Decodes fun (a : α) (l : NonEmptyVec β) => R a l.toList := by
  intro a v w l hv hsim hw
  obtain ⟨l', hl', hw⟩ := bind_eq_ok hw
  cases htry : NonEmptyVec.tryFrom l' with
  | none =>
    rw [htry] at hw
    cases hw
  | some m =>
    rw [htry] at hw
    cases hw
    rw [NonEmptyVec.tryFrom_eq_some.mp htry] at hl'
    exact hR hv hsim hl'

variable {K : Type} [Ord K] [Std.TransOrd K] [Std.LawfulEqOrd K] [DecidableEq K] [Serialize K]
  [Deserialize K]

/-- maps whose entries agree in their keys and are related in their values -/
theorem rel_getElem?_ofList {m : BTreeMap K α} {l' : List (K × β)}
    (h : List.Forall₂ (fun (e : K × α) (e' : K × β) => e'.1 = e.1 ∧ R e.2 e'.2) m.toList l')
    (k : K) : Option.Rel R m[k]? (Std.ExtTreeMap.ofList l' compare : BTreeMap K β)[k]? := by
  have hkeys : l'.map Prod.fst = m.toList.map Prod.fst := by
    clear k
    generalize m.toList = l at h
    induction h with
    | nil => rfl
    | cons h _ ih => rw [List.map_cons, List.map_cons, h.1, ih]
  have hnd : (l'.map Prod.fst).Nodup := hkeys ▸ BTreeMap.toList_keys_nodup m
  cases hk : m[k]? with
  | some a =>
    obtain ⟨i, hi, hget⟩ := List.getElem_of_mem (BTreeMap.mem_toList.mpr hk)
    have hi' : i < l'.length := h.length_eq ▸ hi
    have hrel := h.get hi hi'
    rw [List.get_eq_getElem, List.get_eq_getElem, hget] at hrel
    have hmem : (k, l'[i].2) ∈ l' := by
      have hfst : l'[i].1 = k := hrel.1
      rw [← hfst]
      exact List.getElem_mem hi'
    rw [BTreeMap.getElem?_ofList_of_mem hnd hmem]
    exact .some hrel.2
  | none =>
    have hnone : (Std.ExtTreeMap.ofList l' compare : BTreeMap K β)[k]? = none := by
      rw [BTreeMap.getElem?_eq_none_iff, BTreeMap.mem_ofList, hkeys, BTreeMap.mem_toList_keys]
      exact BTreeMap.getElem?_eq_none_iff.mp hk
    rw [hnone]
    exact .none

/-- **A map reads back entry by entry.** -/
theorem Decodes.map (hK : Decodes fun k k' : K => k' = k) (hR : Decodes R) :
    Decodes fun (m : BTreeMap K α) (m' : BTreeMap K β) => ∀ k : K, Option.Rel R m[k]? m'[k]? := by
  intro m v w m' hv hsim hw
  obtain ⟨vs, hvs, rfl⟩ := map_eq_ok hv
  obtain ⟨ws, rfl, hsim⟩ := hsim
  obtain ⟨l', hl', hm'⟩ := bind_eq_ok hw
  cases hm'
  refine rel_getElem?_ofList (forall₂_decoded ?_ (mapM_forall₂ hvs) (similarEntries_forall₂ hsim)
    (mapM_forall₂ hl'))
  intro e x y e' hx hsim hy
  obtain ⟨x₁, hx₁, hx⟩ := bind_eq_ok hx
  obtain ⟨x₂, hx₂, hx⟩ := bind_eq_ok hx
  cases hx
  obtain ⟨y₁, hy₁, hy⟩ := bind_eq_ok hy
  obtain ⟨y₂, hy₂, hy⟩ := bind_eq_ok hy
  cases hy
  exact ⟨hK hx₁ hsim.1 hy₁, hR hx₂ hsim.2 hy₂⟩

theorem Decodes.nonEmptyMap {R : BTreeMap K α → BTreeMap K β → Prop} (hR : Decodes R) :
    Decodes fun (m : NonEmptyMap K α) (m' : BTreeMap K β) => R m.toMap m' := by
  intro m v w m' hv hsim hw
  exact hR hv hsim hw

end

/-! ## embedded items -/

/-- **An embedded item keeps its bytes**, and what it embeds is read from them. -/
theorem Decodes.tag24 [Ciborium] {T : Type} [Deserialize T] :
    Decodes fun t t' : Tag24 T =>
      t'.innerBytes = t.innerBytes ∧ Isomdl.fromSlice T t.innerBytes = .ok t'.inner := by
  intro t v w t' hv hsim hw
  cases hv
  obtain ⟨w', hw', hinner⟩ := (hsim.resolve_left (by decide)).resolve_left (by decide)
  have hbytes : w' = .bytes t.innerBytes := hinner
  subst hw' hbytes
  have hfrom : (Tag24.tryFromValue (.tag 24 (.bytes t.innerBytes)) :
      Except Tag24.Error (Tag24 T)).mapError Tag24.Error.display = .ok t' := hw
  rw [show (Tag24.tryFromValue (.tag 24 (.bytes t.innerBytes)) : Except Tag24.Error (Tag24 T)) =
    Tag24.fromBytes t.innerBytes from rfl, Tag24.fromBytes] at hfrom
  cases hread : Isomdl.fromSlice T t.innerBytes with
  | error e =>
    rw [hread] at hfrom
    cases hfrom
  | ok inner =>
    rw [hread] at hfrom
    cases hfrom
    exact ⟨rfl, rfl⟩

/-! ## structs -/

/-- the entries a struct was written as -/
theorem structEntries_eq_ok {fields : List (String × Option (Except String Value))}
    {entries : List (Value × Value)} (h : structEntries fields = .ok entries) :
    ∃ l : List (String × Option Value), fields = l.map (fun e => (e.1, e.2.map .ok)) ∧
      entries = (BTreeMap.present l).map fun e => (.text e.1, e.2) := by
  induction fields generalizing entries with
  | nil =>
    cases h
    exact ⟨[], rfl, rfl⟩
  | cons field fields ih =>
    obtain ⟨name, o⟩ := field
    cases o with
    | none =>
      obtain ⟨l, rfl, rfl⟩ := ih h
      exact ⟨(name, none) :: l, rfl, rfl⟩
    | some x =>
      have hbind : (x >>= fun v => structEntries fields >>= fun entries =>
        .ok ((.text name, v) :: entries)) = .ok entries := h
      obtain ⟨v, rfl, hfields⟩ := bind_eq_ok hbind
      obtain ⟨rest, hrest, heq⟩ := bind_eq_ok hfields
      cases heq
      obtain ⟨l, rfl, rfl⟩ := ih hrest
      exact ⟨(name, some v) :: l, rfl, rfl⟩

/-- the entries are read back under the same names -/
theorem similarEntries_present {l : List (String × Option Value)} {ws : List (Value × Value)}
    (h : Value.SimilarEntries ((BTreeMap.present l).map fun e => (.text e.1, e.2)) ws) :
    ∃ l' : List (String × Option Value),
      List.Forall₂ (fun e e' => e'.1 = e.1 ∧ Option.Rel Value.Similar e.2 e'.2) l l' ∧
      ws = (BTreeMap.present l').map fun e => (.text e.1, e.2) := by
  induction l generalizing ws with
  | nil =>
    cases h
    exact ⟨[], .nil, rfl⟩
  | cons e l ih =>
    obtain ⟨name, o⟩ := e
    cases o with
    | none =>
      obtain ⟨l', hl', rfl⟩ := ih h
      exact ⟨(name, none) :: l', .cons ⟨rfl, .none⟩ hl', rfl⟩
    | some v =>
      obtain ⟨key, w, ws, rfl, hkey, hw, hrest⟩ := h
      obtain ⟨l', hl', rfl⟩ := ih hrest
      have htext : key = .text name := hkey
      subst htext
      exact ⟨(name, some w) :: l', .cons ⟨rfl, .some hw⟩ hl', rfl⟩

namespace Fields

/-- **A field that was written is found again.** -/
theorem find?_decoded {fields : List (String × Option (Except String Value))} {v w : Value}
    {struct name : String} {fs : Fields} {o : Option (Except String Value)}
    (hv : structValue fields = .ok v) (hsim : v.Similar w) (hfs : ofValue struct w = .ok fs)
    (hnd : (fields.map Prod.fst).Nodup) (hmem : (name, o) ∈ fields) :
    ∃ x y : Option Value, o = x.map .ok ∧ fs.find? name = .ok y ∧
      Option.Rel Value.Similar x y := by
  obtain ⟨entries, hentries, rfl⟩ := map_eq_ok hv
  obtain ⟨l, rfl, rfl⟩ := structEntries_eq_ok hentries
  obtain ⟨ws, rfl, hws⟩ := hsim
  obtain ⟨l', hl', rfl⟩ := similarEntries_present hws
  rw [ofValue_present] at hfs
  cases hfs
  have hnames : l'.map Prod.fst = l.map Prod.fst := by
    clear hv hentries hws hnd hmem
    induction hl' with
    | nil => rfl
    | cons h _ ih => rw [List.map_cons, List.map_cons, h.1, ih]
  rw [List.map_map] at hnd
  have hnd' : (l'.map Prod.fst).Nodup := by
    rw [hnames]
    exact hnd
  obtain ⟨⟨name', x⟩, hx, heq⟩ := List.mem_map.mp hmem
  cases heq
  obtain ⟨i, hi, hget⟩ := List.getElem_of_mem hx
  have hi' : i < l'.length := hl'.length_eq ▸ hi
  have hrel := hl'.get hi hi'
  rw [List.get_eq_getElem, List.get_eq_getElem, hget] at hrel
  refine ⟨x, l'[i].2, rfl, ?_, hrel.2⟩
  apply find?_present hnd'
  have hfst : l'[i].1 = name' := hrel.1
  rw [← hfst]
  exact List.getElem_mem hi'

variable {fields : List (String × Option (Except String Value))} {v w : Value}
  {struct name : String} {fs : Fields} {α β : Type} [Serialize α] [Deserialize β]
  {R : α → β → Prop}

/-- **A field reads back related.** -/
theorem required_decodes (hR : Decodes R) (hv : structValue fields = .ok v) (hsim : v.Similar w)
    (hfs : ofValue struct w = .ok fs) (hnd : (fields.map Prod.fst).Nodup) {a : α}
    (hmem : (name, some (toValue a)) ∈ fields) {b : β} (hb : fs.required name β = .ok b) :
    R a b := by
  obtain ⟨x, y, hx, hfind, hrel⟩ := find?_decoded hv hsim hfs hnd hmem
  rw [required, hfind] at hb
  cases hrel with
  | none => cases hx
  | some hxy => exact hR (Option.some.inj hx) hxy hb

/-- an optional field whose values are never `null` -/
theorem optional_decodes (hR : Decodes R)
    (hnull : ∀ (a : α) (v : Value), toValue a = .ok v → ¬ v.Similar .null)
    (hv : structValue fields = .ok v) (hsim : v.Similar w) (hfs : ofValue struct w = .ok fs)
    (hnd : (fields.map Prod.fst).Nodup) {o : Option α} (hmem : (name, o.map toValue) ∈ fields)
    {o' : Option β} (ho' : fs.optional name β = .ok o') : Option.Rel R o o' := by
  obtain ⟨x, y, hx, hfind, hrel⟩ := find?_decoded hv hsim hfs hnd hmem
  rw [optional, hfind] at ho'
  cases hrel with
  | none =>
    cases ho'
    cases o with
    | none => exact .none
    | some a => cases hx
  | @some x y hxy =>
    cases o with
    | none => cases hx
    | some a =>
      have hvalue : toValue a = .ok x := Option.some.inj hx
      have hne : y ≠ .null := fun heq => hnull a x hvalue (heq ▸ hxy)
      have hsome : some <$> Deserialize.ofValue (α := β) y = .ok o' := by
        cases y with
        | null => exact absurd rfl hne
        | _ => exact ho'
      obtain ⟨b, hb, rfl⟩ := map_eq_ok hsome
      exact .some (hR hvalue hxy hb)

end Fields

/-! ## what an issuer signs -/

/-- what a decoded item keeps: its element value up to floats and bignums -/
structure ItemKept (item item' : IssuerSignedItem) : Prop where
  digestId : item'.digestId = item.digestId
  random : item'.random = item.random
  elementIdentifier : item'.elementIdentifier = item.elementIdentifier
  elementValue : item.elementValue.Similar item'.elementValue

theorem decodes_issuerSignedItem : Decodes ItemKept := by
  intro item v w item' hv hsim hw
  obtain ⟨fields, hfields, hw⟩ := bind_eq_ok hw
  obtain ⟨digestId, hdigestId, hw⟩ := bind_eq_ok hw
  obtain ⟨random, hrandom, hw⟩ := bind_eq_ok hw
  obtain ⟨identifier, hidentifier, hw⟩ := bind_eq_ok hw
  obtain ⟨value, hvalue, hw⟩ := bind_eq_ok hw
  cases hw
  have hnd : ["digestID", "random", "elementIdentifier", "elementValue"].Nodup := by decide
  exact
    { digestId := Fields.required_decodes decodes_digestId hv hsim hfields hnd (by simp) hdigestId
      random := Fields.required_decodes decodes_byteStr hv hsim hfields hnd (by simp) hrandom
      elementIdentifier :=
        Fields.required_decodes decodes_string hv hsim hfields hnd (by simp) hidentifier
      elementValue := Fields.required_decodes decodes_value hv hsim hfields hnd (by simp) hvalue }

section
variable [Ciborium]

/-- a decoded item has the bytes it was written with -/
def SameBytes (t t' : IssuerSignedItemBytes) : Prop :=
  t'.innerBytes = t.innerBytes ∧ fromSlice IssuerSignedItem t.innerBytes = .ok t'.inner

theorem decodes_item : Decodes SameBytes := Decodes.tag24

/-- the items under a namespace -/
def itemsOf (namespaces : Option IssuerNamespaces) (ns : String) : List IssuerSignedItemBytes :=
  ((namespaces.bind fun m => (m.toMap : BTreeMap String _)[ns]?).map NonEmptyVec.toList).getD []

/-- the items of every namespace, in order, with the bytes they were written with -/
def NamespacesKept (namespaces namespaces' : Option IssuerNamespaces) : Prop :=
  ∀ ns, List.Forall₂ SameBytes (itemsOf namespaces ns) (itemsOf namespaces' ns)

/-- the namespaces that are read, as lists of items -/
theorem deserializeOptionalIssuerNamespaces_eq_ok {fields : Fields} {name : String}
    {namespaces : Option IssuerNamespaces}
    (h : deserializeOptionalIssuerNamespaces fields name = .ok namespaces) :
    ∃ o : Option (BTreeMap String (List IssuerSignedItemBytes)),
      fields.optional name (BTreeMap String (List IssuerSignedItemBytes)) = .ok o ∧
      ∀ ns : String, itemsOf namespaces ns = (o.bind fun m => m[ns]?).getD [] := by
  obtain ⟨o, ho, h⟩ := bind_eq_ok h
  refine ⟨o, ho, fun ns => ?_⟩
  cases o with
  | none =>
    cases h
    rfl
  | some m =>
    dsimp only at h
    by_cases hempty : m.isEmpty = true
    · rw [if_pos hempty] at h
      cases h
      rw [Std.ExtTreeMap.isEmpty_iff.mp hempty]
      rfl
    · rw [if_neg hempty] at h
      obtain ⟨entries, hentries, h⟩ := bind_eq_ok h
      have hrel : ∀ ns : String, Option.Rel (fun (l : List IssuerSignedItemBytes) v => l = v.toList)
          m[ns]? (Std.ExtTreeMap.ofList entries compare :
            BTreeMap String (NonEmptyVec IssuerSignedItemBytes))[ns]? := by
        refine rel_getElem?_ofList ((mapM_forall₂ hentries).imp fun e e' he => ?_)
        cases htry : NonEmptyVec.tryFrom e.2 with
        | none =>
          rw [htry] at he
          cases he
        | some items =>
          rw [htry] at he
          cases he
          exact ⟨rfl, NonEmptyVec.tryFrom_eq_some.mp htry⟩
      cases htry : NonEmptyMap.tryFrom (Std.ExtTreeMap.ofList entries compare :
          BTreeMap String (NonEmptyVec IssuerSignedItemBytes)) with
      | none =>
        rw [htry] at h
        cases h
      | some n =>
        rw [htry] at h
        cases h
        have hns := hrel ns
        rw [NonEmptyMap.tryFrom_eq_some.mp htry] at hns
        show ((n.toMap[ns]?).map NonEmptyVec.toList).getD [] = (m[ns]?).getD []
        generalize n.toMap[ns]? = y at hns ⊢
        generalize m[ns]? = x at hns ⊢
        cases hns with
        | none => rfl
        | some heq => exact heq.symm

variable [Coset] [CosetHeader] [FaithfulCiborium] [LawfulCoset]

theorem decodes_issuerNamespaces :
    Decodes fun (m : IssuerNamespaces) (m' : BTreeMap String (List IssuerSignedItemBytes)) =>
      ∀ ns : String, Option.Rel (fun (l : NonEmptyVec IssuerSignedItemBytes)
        (l' : List IssuerSignedItemBytes) => List.Forall₂ SameBytes l.toList l')
          m.toMap[ns]? m'[ns]? :=
  (Decodes.map decodes_string decodes_item.nonEmptyVec).nonEmptyMap

/-- what a `COSE_Sign1` that is read keeps of one whose protected header is coherent -/
structure SignatureKept (c c' : MaybeTagged CoseSign1) : Prop where
  payload : c'.inner.payload = c.inner.payload
  signature : c'.inner.signature = c.inner.signature
  protectedHeader : c.inner.protectedHeader.Coherent →
    Kept c.inner.protectedHeader c'.inner.protectedHeader ∧ c'.inner.protectedHeader.Coherent

theorem decodes_sign1 : Decodes SignatureKept := by
  intro c v w c' hv hsim hw
  obtain ⟨-, hpayload, hsignature, bstr, hbstr, hp⟩ := sign1_decoded hv hsim hw
  exact ⟨hpayload, hsignature, fun h => h.kept hbstr hp⟩

theorem decodes_issuerAuth {R : MaybeTagged CoseSign1 → MaybeTagged CoseSign1 → Prop}
    (hR : Decodes R) : Decodes fun i i' : IssuerSigned => R i.issuerAuth i'.issuerAuth := by
  intro i v w i' hv hsim hw
  obtain ⟨fields, hfields, hw⟩ := bind_eq_ok hw
  obtain ⟨namespaces, -, hw⟩ := bind_eq_ok hw
  obtain ⟨issuerAuth, hauth, hw⟩ := bind_eq_ok hw
  cases hw
  have hnd : ["nameSpaces", "issuerAuth"].Nodup := by decide
  exact Fields.required_decodes hR hv hsim hfields hnd (by simp) hauth

/-- **An `IssuerSigned` keeps its items and what its issuer signed.** -/
theorem decodes_issuerSigned : Decodes fun i i' : IssuerSigned =>
    NamespacesKept i.namespaces i'.namespaces ∧ Sign1Kept i.issuerAuth i'.issuerAuth := by
  intro i v w i' hv hsim hw
  have hsign1 : Decodes Sign1Kept := fun _ _ _ _ hv hsim hw => sign1_kept hv hsim hw
  refine ⟨?_, decodes_issuerAuth hsign1 hv hsim hw⟩
  obtain ⟨fields, hfields, hw⟩ := bind_eq_ok hw
  obtain ⟨namespaces, hnamespaces, hw⟩ := bind_eq_ok hw
  obtain ⟨issuerAuth, -, hw⟩ := bind_eq_ok hw
  cases hw
  have hnd : ["nameSpaces", "issuerAuth"].Nodup := by decide
  obtain ⟨o, ho, hitems⟩ := deserializeOptionalIssuerNamespaces_eq_ok hnamespaces
  have hnull (m : IssuerNamespaces) (x : Value) (hx : toValue m = .ok x) : ¬ x.Similar .null := by
    obtain ⟨vs, -, rfl⟩ := map_eq_ok hx
    intro h
    obtain ⟨ws, heq, -⟩ := h
    cases heq
  have hrel := Fields.optional_decodes decodes_issuerNamespaces hnull hv hsim hfields hnd
    (List.mem_cons_self : ("nameSpaces", i.namespaces.map toValue) ∈ _) ho
  intro ns
  show List.Forall₂ SameBytes (itemsOf i.namespaces ns) (itemsOf namespaces ns)
  rw [hitems]
  generalize i.namespaces = before at hrel ⊢
  cases hrel with
  | none => exact .nil
  | @some m m' hmap =>
    have hns := hmap ns
    show List.Forall₂ SameBytes ((m.toMap[ns]?.map NonEmptyVec.toList).getD []) ((m'[ns]?).getD [])
    generalize m.toMap[ns]? = x at hns ⊢
    generalize m'[ns]? = y at hns ⊢
    cases hns with
    | none => exact .nil
    | some h => exact h

/-! ## what a device returns -/

theorem decodes_presented {R : IssuerSigned → IssuerSigned → Prop} (hR : Decodes R) :
    Decodes fun d d' : DeviceResponse.Document =>
      d'.docType = d.docType ∧ R d.issuerSigned d'.issuerSigned := by
  intro d v w d' hv hsim hw
  obtain ⟨fields, hfields, hw⟩ := bind_eq_ok hw
  obtain ⟨docType, hdocType, hw⟩ := bind_eq_ok hw
  obtain ⟨issuerSigned, hissuerSigned, hw⟩ := bind_eq_ok hw
  obtain ⟨deviceSigned, -, hw⟩ := bind_eq_ok hw
  obtain ⟨errors, -, hw⟩ := bind_eq_ok hw
  cases hw
  have hnd : ["docType", "issuerSigned", "deviceSigned", "errors"].Nodup := by decide
  exact ⟨Fields.required_decodes decodes_string hv hsim hfields hnd (by simp) hdocType,
    Fields.required_decodes hR hv hsim hfields hnd (by simp) hissuerSigned⟩

/-- what a decoded document keeps of what the issuer signed -/
structure DocumentKept (d d' : DeviceResponse.Document) : Prop where
  docType : d'.docType = d.docType
  namespaces : NamespacesKept d.issuerSigned.namespaces d'.issuerSigned.namespaces
  issuerAuth : Sign1Kept d.issuerSigned.issuerAuth d'.issuerSigned.issuerAuth

theorem decodes_document : Decodes DocumentKept := by
  intro d v w d' hv hsim hw
  obtain ⟨hdocType, hnamespaces, hauth⟩ := decodes_presented decodes_issuerSigned hv hsim hw
  exact ⟨hdocType, hnamespaces, hauth⟩

/-- the documents of a response, when each is read back related -/
theorem Decodes.documentList {R : DeviceResponse.Document → DeviceResponse.Document → Prop}
    (hR : Decodes R) :
    Decodes fun r r' : DeviceResponse => List.Forall₂ R r.documentList r'.documentList := by
  intro r v w r' hv hsim hw
  obtain ⟨fields, hfields, hw⟩ := bind_eq_ok hw
  obtain ⟨version, -, hw⟩ := bind_eq_ok hw
  obtain ⟨documents, hdocuments, hw⟩ := bind_eq_ok hw
  obtain ⟨documentErrors, -, hw⟩ := bind_eq_ok hw
  obtain ⟨status, -, hw⟩ := bind_eq_ok hw
  cases hw
  have hnd : ["version", "documents", "documentErrors", "status"].Nodup := by decide
  have hnull (l : NonEmptyVec DeviceResponse.Document) (x : Value) (hx : toValue l = .ok x) :
      ¬ x.Similar .null := by
    obtain ⟨vs, -, rfl⟩ := map_eq_ok hx
    intro h
    obtain ⟨ws, heq, -⟩ := h
    cases heq
  have hrel := Fields.optional_decodes hR.nonEmptyVec.toNonEmptyVec hnull hv hsim
    hfields hnd (by simp : ("documents", r.documents.map toValue) ∈ _) hdocuments
  show List.Forall₂ R ((r.documents.map NonEmptyVec.toList).getD [])
    ((documents.map NonEmptyVec.toList).getD [])
  generalize r.documents = before at hrel ⊢
  cases hrel with
  | none => exact .nil
  | some h => exact h

/-- **A reader gets the documents that were returned, with the items' bytes.** -/
theorem decodes_deviceResponse : Decodes fun r r' : DeviceResponse =>
    List.Forall₂ DocumentKept r.documentList r'.documentList := decodes_document.documentList

/-! ## the security object -/

theorem decodes_digestAlgorithm : Decodes fun a b : DigestAlgorithm => b = a := by
  intro a v w b hv hsim hw
  cases hv
  have htext : w = .text a.name := hsim
  subst htext
  cases a <;> exact (Except.ok.inj hw).symm

/-- what a decoded security object keeps of its digest table -/
structure MsoKept (m m' : Mso) : Prop where
  digestAlgorithm : m'.digestAlgorithm = m.digestAlgorithm
  valueDigests : ∀ ns : String,
    Option.Rel
      (fun ids ids' : DigestIds => ∀ d : DigestId, Option.Rel (fun b c => c = b) ids[d]? ids'[d]?)
      m.valueDigests[ns]? m'.valueDigests[ns]?

theorem decodes_mso [Rfc3339] : Decodes MsoKept := by
  intro m v w m' hv hsim hw
  obtain ⟨fields, hfields, hw⟩ := bind_eq_ok hw
  obtain ⟨version, -, hw⟩ := bind_eq_ok hw
  obtain ⟨digestAlgorithm, halgorithm, hw⟩ := bind_eq_ok hw
  obtain ⟨valueDigests, hdigests, hw⟩ := bind_eq_ok hw
  obtain ⟨deviceKeyInfo, -, hw⟩ := bind_eq_ok hw
  obtain ⟨docType, -, hw⟩ := bind_eq_ok hw
  obtain ⟨validityInfo, -, hw⟩ := bind_eq_ok hw
  cases hw
  have hnd : ["version", "digestAlgorithm", "valueDigests", "deviceKeyInfo", "docType",
    "validityInfo"].Nodup := by decide
  have htable := Decodes.map decodes_string (Decodes.map decodes_digestId decodes_byteStr)
  exact ⟨Fields.required_decodes decodes_digestAlgorithm hv hsim hfields hnd (by simp) halgorithm,
    Fields.required_decodes htable hv hsim hfields hnd (by simp) hdigests⟩

end

end Isomdl
