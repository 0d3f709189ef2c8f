import Isomdl.Decoding
import Isomdl.Presentation.Operations
import Isomdl.Presentation.Signing
import Isomdl.Reference.X509

/-!
# The self-check of a response (`presentation/device.rs`)

The last signature encodes the response, decodes it, and encodes it again.  `ReadsBack n a` says
that what is written of `a` nests at most `n` deep and reads back to something that is written
alike.  `Rereads L n a` says so of what is written in terms of `L`, for a bound on the depth or for
none, and there is one rule for each way a response is put together.

* `Rereads.nonEmptyVec`, `Rereads.textMap`   sequences and maps;
* `rereads_deviceAuth_signature`, `rereads_deviceAuth_mac`
                                             what a device makes of a signature or a tag;
* `fromHeld_finalize`                        what a document of a response is made of;
* `selfChecks_of_readsBack`                  a response that reads back passes.
-/

set_option linter.unusedSectionVars false

namespace Isomdl

open Cbor

/-! ## reading back -/

section
variable {α : Type} [Serialize α] [Deserialize α]

/-- `v` is written for `a`, at most `n` deep, and reads back to something that is written alike -/
structure ReadsBackAs (n : Nat) (a : α) (v : Value) : Prop where
  written : toValue a = .ok v
  plain : v.Plain n
  read : ∃ a' : α, ofValue v = .ok a' ∧ toValue a' = .ok v

def ReadsBack (n : Nat) (a : α) : Prop := ∃ v, ReadsBackAs n a v

end

/-! ### in layers

The laws of `ciborium` are about values that nest only so deep.  What is said of a value by its depth
is carried from the parts of a value to the whole. -/

class Layered (L : Nat → Value → Prop) : Prop where
  of_plain {n : Nat} {v : Value} : v.Plain n → L n v
  mono {m n : Nat} {v : Value} : L m v → m ≤ n → L n v
  array {n : Nat} {vs : List Value} : (∀ v ∈ vs, L n v) → L (n + 1) (.array vs)
  map {n : Nat} {kvs : List (Value × Value)} :
    (∀ e ∈ kvs, L n e.1 ∧ L n e.2) → L (n + 1) (.map kvs)

/-- at most `n` deep -/
def PlainLayer (n : Nat) (v : Value) : Prop := v.Plain n

instance : Layered PlainLayer where
  of_plain h := h
  mono h hle := Value.Plain.mono h hle
  array h := h
  map h := h

/-- however deep -/
def AnyLayer (_ : Nat) (_ : Value) : Prop := True

instance : Layered AnyLayer where
  of_plain _ := trivial
  mono _ _ := trivial
  array _ := trivial
  map _ := trivial

section
variable (L : Nat → Value → Prop) {α : Type} [Serialize α] [Deserialize α]

/-- `ReadsBackAs`, for what `L` says of the value -/
structure RereadsAs (n : Nat) (a : α) (v : Value) : Prop where
  written : toValue a = .ok v
  layer : L n v
  read : ∃ a' : α, ofValue v = .ok a' ∧ toValue a' = .ok v

def Rereads (n : Nat) (a : α) : Prop := ∃ v, RereadsAs L n a v

theorem rereads_plain_iff (n : Nat) (a : α) : Rereads PlainLayer n a ↔ ReadsBack n a :=
  ⟨fun ⟨v, hv, hplain, hread⟩ => ⟨v, hv, hplain, hread⟩,
    fun ⟨v, hv, hplain, hread⟩ => ⟨v, hv, hplain, hread⟩⟩

end

variable {L : Nat → Value → Prop} [Layered L]

section
variable {α : Type} [Serialize α] [Deserialize α]

theorem RereadsAs.of_ofValue {n : Nat} {a : α} {v : Value} (hv : toValue a = .ok v)
    (hlayer : L n v) (h : ofValue v = .ok a) : RereadsAs L n a v := ⟨hv, hlayer, a, h, hv⟩

end

theorem rereadsAs_documentErrorCode (n : Nat) :
    RereadsAs L n DocumentErrorCode.DataNotReturned (.int 0) :=
  .of_ofValue rfl (Layered.of_plain (Value.plain_integer n _)) rfl

theorem rereadsAs_status (n : Nat) (status : DeviceResponse.Status) :
    RereadsAs L n status (Value.ofUInt64 status.toUInt64) := by
  refine .of_ofValue rfl (Layered.of_plain (Value.plain_ofUInt64 n _)) ?_
  cases status <;> rfl

theorem plain_tag24 {T : Type} (n : Nat) (t : Tag24 T) : t.toCbor.Plain (n + 1) :=
  ⟨by decide, by decide, Value.plain_bytes n _⟩

/-- an embedded item reads back when its bytes do -/
theorem rereadsAs_tag24 [Ciborium] {T : Type} [Deserialize T] (n : Nat) {t : Tag24 T} {inner : T}
    (h : fromSlice T t.innerBytes = .ok inner) : RereadsAs L (n + 1) t t.toCbor := by
  refine ⟨rfl, Layered.of_plain (plain_tag24 n t), ⟨inner, t.innerBytes⟩, ?_, rfl⟩
  exact Tag24.ofValue_toCbor (t := ⟨inner, t.innerBytes⟩) h

/-! ### sequences -/

section
variable {α : Type} [Serialize α] [Deserialize α] {n : Nat}

/-- elements that read back, each by itself -/
theorem exists_readBack_list {l : List α} (h : ∀ a ∈ l, Rereads L n a) :
    ∃ (vs : List Value) (l' : List α), l.mapM toValue = .ok vs ∧ (∀ v ∈ vs, L n v) ∧
      vs.mapM ofValue = .ok l' ∧ l'.mapM toValue = .ok vs := by
  induction l with
  | nil => exact ⟨[], [], rfl, fun _ h => absurd h List.not_mem_nil, rfl, rfl⟩
  | cons a l ih =>
    obtain ⟨v, hv, hplain, a', ha', hback⟩ := h a List.mem_cons_self
    obtain ⟨vs, l', hvs, hplains, hl', hbacks⟩ := ih fun b hb => h b (List.mem_cons_of_mem a hb)
    refine ⟨v :: vs, a' :: l', ?_, ?_, ?_, ?_⟩
    · rw [List.mapM_cons, hv, hvs]
      rfl
    · exact List.forall_mem_cons.mpr ⟨hplain, hplains⟩
    · rw [List.mapM_cons, ha', hl']
      rfl
    · rw [List.mapM_cons, hback, hbacks]
      rfl

theorem Rereads.list {l : List α} (h : ∀ a ∈ l, Rereads L n a) :
    ∃ vs, RereadsAs L (n + 1) l (.array vs) ∧ vs.length = l.length := by
  obtain ⟨vs, l', hvs, hplains, hl', hbacks⟩ := exists_readBack_list h
  refine ⟨vs, ⟨?_, Layered.array hplains, l', hl', ?_⟩, ?_⟩
  · show Value.array <$> l.mapM toValue = _
    rw [hvs]
    rfl
  · show Value.array <$> l'.mapM toValue = _
    rw [hbacks]
    rfl
  · exact (mapM_forall₂ hvs).length_eq.symm

/-- **A sequence reads back when its elements do.** -/
theorem Rereads.nonEmptyVec {l : NonEmptyVec α} (h : ∀ a ∈ l.toList, Rereads L n a) :
    ∃ vs, RereadsAs L (n + 1) l (.array vs) := by
  obtain ⟨vs, ⟨hv, hplain, l', hl', hback⟩, hlength⟩ := Rereads.list h
  have hne : l' ≠ [] := by
    intro hnil
    rw [hnil] at hback
    have harray : Value.array vs = .array [] := (Except.ok.inj hback).symm
    cases harray
    exact l.nonempty (List.length_eq_zero_iff.mp hlength.symm)
  refine ⟨vs, hv, hplain, ⟨l', hne⟩, ?_, hback⟩
  show ((ofValue (.array vs) : Except String (List α)) >>= _) = _
  rw [hl', ok_bind, NonEmptyVec.tryFrom_toList ⟨l', hne⟩]

end

/-! ### maps with text keys -/

/-- an entry of a map with text keys, as it is written -/
def writeEntry {α : Type} [Serialize α] (e : String × α) : Except String (Value × Value) := do
  let k ← toValue e.1
  let v ← toValue e.2
  .ok (k, v)

/-- an entry of a map with text keys, as it is read -/
def readEntry {α : Type} [Deserialize α] (e : Value × Value) : Except String (String × α) := do
  let k ← ofValue e.1
  let v ← ofValue e.2
  .ok (k, v)

theorem toValue_textMap_eq {α : Type} [Serialize α] (m : BTreeMap String α) :
    toValue m = Value.map <$> m.toList.mapM writeEntry := rfl

section
variable {α β : Type} [Serialize α] [Serialize β] [Deserialize β] {n : Nat} {P : β → Prop}

/-- an `α` that is read as a `β` which is written alike -/
def ReadsAs (L : Nat → Value → Prop) (n : Nat) (P : β → Prop) (a : α) : Prop :=
  ∃ v b, toValue a = .ok v ∧ L n v ∧ ofValue v = .ok b ∧ toValue b = .ok v ∧ P b

theorem exists_readAs_entries {l : List (String × α)} (h : ∀ e ∈ l, ReadsAs L n P e.2) :
    ∃ (kvs : List (Value × Value)) (l' : List (String × β)),
      l.mapM writeEntry = .ok kvs ∧ (∀ e ∈ kvs, L n e.1 ∧ L n e.2) ∧
      kvs.mapM readEntry = .ok l' ∧ l'.mapM writeEntry = .ok kvs ∧
      l'.map Prod.fst = l.map Prod.fst ∧ ∀ e ∈ l', P e.2 := by
  induction l with
  | nil =>
    exact ⟨[], [], rfl, fun _ h => absurd h List.not_mem_nil, rfl, rfl, rfl,
      fun _ h => absurd h List.not_mem_nil⟩
  | cons e l ih =>
    obtain ⟨v, b, hv, hplain, hb, hback, hP⟩ := h e List.mem_cons_self
    obtain ⟨kvs, l', hkvs, hplains, hl', hbacks, hkeys, hPs⟩ :=
      ih fun e' he => h e' (List.mem_cons_of_mem e he)
    have hwrite : writeEntry e = .ok (.text e.1, v) := by
      show (toValue e.2 >>= fun v => .ok (Value.text e.1, v)) = _
      rw [hv]
      rfl
    have hread : readEntry (.text e.1, v) = .ok (e.1, b) := by
      show (ofValue v >>= fun b => .ok (e.1, b)) = _
      rw [hb]
      rfl
    have hwrite' : writeEntry (e.1, b) = .ok (.text e.1, v) := by
      show (toValue b >>= fun v => .ok (Value.text e.1, v)) = _
      rw [hback]
      rfl
    refine ⟨(.text e.1, v) :: kvs, (e.1, b) :: l', ?_, ?_, ?_, ?_, ?_, ?_⟩
    · rw [List.mapM_cons, hwrite, hkvs]
      rfl
    · exact List.forall_mem_cons.mpr ⟨⟨Layered.of_plain (Value.plain_text n _), hplain⟩, hplains⟩
    · rw [List.mapM_cons, hread, hl']
      rfl
    · rw [List.mapM_cons, hwrite', hbacks]
      rfl
    · rw [List.map_cons, List.map_cons, hkeys]
    · exact List.forall_mem_cons.mpr ⟨hP, hPs⟩

/-- **A map with text keys is read as one that is written alike.** -/
theorem readsAs_textMap {m : BTreeMap String α} (h : ∀ (k : String) (a : α),
    m[k]? = some a → ReadsAs L n P a) :
    ∃ kvs, ∃ m' : BTreeMap String β, toValue m = .ok (.map kvs) ∧ L (n + 1) (.map kvs) ∧
      ofValue (.map kvs) = .ok m' ∧ toValue m' = .ok (.map kvs) ∧
      m'.toList.map Prod.fst = m.toList.map Prod.fst ∧ ∀ e ∈ m'.toList, P e.2 := by
  have hentries : ∀ e ∈ m.toList, ReadsAs L n P e.2 :=
    fun e he => h e.1 e.2 (BTreeMap.mem_toList.mp he)
  obtain ⟨kvs, l', hkvs, hplain, hl', hback, hkeys, hP⟩ := exists_readAs_entries hentries
  have hlist : (Std.ExtTreeMap.ofList l' compare : BTreeMap String β).toList = l' :=
    BTreeMap.toList_ofList_of_keys hkeys
  refine ⟨kvs, Std.ExtTreeMap.ofList l' compare, ?_, Layered.map hplain, ?_, ?_, ?_, ?_⟩
  · rw [toValue_textMap_eq, hkvs]
    rfl
  · show (kvs.mapM readEntry >>= fun entries =>
      Except.ok (Std.ExtTreeMap.ofList entries compare)) = _
    rw [hl']
    rfl
  · rw [toValue_textMap_eq, hlist, hback]
    rfl
  · rw [hlist, hkeys]
  · rw [hlist]
    exact hP

end

section
variable {α : Type} [Serialize α] [Deserialize α] {n : Nat}

theorem Rereads.readsAs {a : α} (h : Rereads L n a) : ReadsAs L n (fun _ : α => True) a := by
  obtain ⟨v, hv, hplain, a', ha', hback⟩ := h
  exact ⟨v, a', hv, hplain, ha', hback, trivial⟩

/-- **A map with text keys reads back when its values do.** -/
theorem Rereads.textMap {m : BTreeMap String α}
    (h : ∀ (k : String) (a : α), m[k]? = some a → Rereads L n a) :
    ∃ kvs, RereadsAs L (n + 1) m (.map kvs) := by
  obtain ⟨kvs, m', hv, hplain, hm', hback, -, -⟩ := readsAs_textMap fun k a hk => (h k a hk).readsAs
  exact ⟨kvs, hv, hplain, m', hm', hback⟩

theorem Rereads.nonEmptyMap {m : NonEmptyMap String α}
    (h : ∀ (k : String) (a : α), m.toMap[k]? = some a → Rereads L n a) :
    ∃ kvs, RereadsAs L (n + 1) m (.map kvs) := by
  obtain ⟨kvs, m', hv, hplain, hm', hback, hkeys, -⟩ :=
    readsAs_textMap fun k a hk => (h k a hk).readsAs
  have hne : m' ≠ ∅ := by
    rw [← BTreeMap.toList_ne_nil]
    intro hnil
    rw [hnil, List.map_nil] at hkeys
    exact BTreeMap.toList_ne_nil.mpr m.nonempty (List.map_eq_nil_iff.mp hkeys.symm)
  refine ⟨kvs, hv, hplain, ⟨m', hne⟩, ?_, hback⟩
  show ((ofValue (.map kvs) : Except String (BTreeMap String α)) >>= _) = _
  have hsome : NonEmptyMap.tryFrom m' = some ⟨m', hne⟩ := NonEmptyMap.tryFrom_eq_some.mpr rfl
  rw [hm', ok_bind, hsome]

end

/-! ### structs -/

/-- an optional field that is written as `ov` and read as `o'`, which is written alike -/
structure FieldReads {α : Type} [Serialize α] [Deserialize α] (L : Nat → Value → Prop) (n : Nat)
    (o : Option α) (ov : Option Value) (o' : Option α) : Prop where
  written : o.map toValue = ov.map .ok
  layer : ∀ v, ov = some v → L n v
  read : (ov = none ∧ o' = none) ∨
    ∃ v b, ov = some v ∧ v ≠ .null ∧ o' = some b ∧ ofValue v = .ok b
  back : o'.map toValue = ov.map .ok

theorem exists_fieldReads {α : Type} [Serialize α] [Deserialize α] {n : Nat} {o : Option α}
    (h : ∀ a, o = some a → ∃ v, RereadsAs L n a v ∧ v ≠ .null) :
    ∃ ov o', FieldReads L n o ov o' := by
  cases o with
  | none => exact ⟨none, none, rfl, (fun _ h => by cases h), .inl ⟨rfl, rfl⟩, rfl⟩
  | some a =>
    obtain ⟨v, ⟨hv, hplain, a', ha', hback⟩, hnull⟩ := h a rfl
    refine ⟨some v, some a', congrArg some hv, ?_, .inr ⟨v, a', rfl, hnull, rfl, ha'⟩,
      congrArg some hback⟩
    intro w hw
    cases hw
    exact hplain

/-- the entries of a struct, at a depth -/
theorem layer_present {n : Nat} {l : List (String × Option Value)}
    (h : ∀ e ∈ l, ∀ v, e.2 = some v → L n v) :
    L (n + 1) (.map ((BTreeMap.present l).map fun e => (.text e.1, e.2))) := by
  apply Layered.map
  intro e he
  obtain ⟨⟨name, v⟩, hmem, rfl⟩ := List.mem_map.mp he
  exact ⟨Layered.of_plain (Value.plain_text n name), h _ (BTreeMap.mem_present.mp hmem) v rfl⟩

/-- **A struct reads back** as a struct whose fields are written alike. -/
theorem rereadsAs_struct {α : Type} [Serialize α] [Deserialize α] {n : Nat} {a a' : α}
    {l : List (String × Option Value)} (hlayer : ∀ e ∈ l, ∀ v, e.2 = some v → L n v)
    (hwrite : toValue a = structValue (l.map fun e => (e.1, e.2.map .ok)))
    (hread : ofValue (.map ((BTreeMap.present l).map fun e => (.text e.1, e.2))) = .ok a')
    (hback : toValue a' = structValue (l.map fun e => (e.1, e.2.map .ok))) :
    RereadsAs L (n + 1) a (.map ((BTreeMap.present l).map fun e => (.text e.1, e.2))) := by
  rw [structValue_present] at hwrite hback
  exact ⟨hwrite, layer_present hlayer, a', hread, hback⟩

/-- the only value a required field can have -/
theorem layer_some {n : Nat} {v : Value} (h : L n v) : ∀ w, some v = some w → L n w :=
  fun _ heq => Option.some.inj heq ▸ h

/-! ## what a device makes -/

theorem Rereads.mono {α : Type} [Serialize α] [Deserialize α] {m n : Nat} {a : α}
    (h : Rereads L m a) (hle : m ≤ n) : Rereads L n a := by
  obtain ⟨v, hv, hplain, hread⟩ := h
  exact ⟨v, hv, Layered.mono hplain hle, hread⟩

/-- an algorithm that the code names -/
def Algorithm.Named : Algorithm → Prop
  | .other _ => False
  | _ => True

/-- `coset` reads back a header that holds an algorithm or nothing -/
class ReadableHeaders [CosetHeader] : Prop where
  readsBack (alg : Option Algorithm) : (∀ a ∈ alg, a.Named) →
    ∃ v, CosetHeader.toCborValue ⟨alg.map .assigned, []⟩ = .ok v ∧ v.Plain 1 ∧
      CosetHeader.fromCborValue v = .ok ⟨alg.map .assigned, []⟩

open scoped Reference in
scoped instance Reference.readableHeaders : ReadableHeaders where
  readsBack alg h := by
    cases alg with
    | none => exact ⟨.map [], rfl, fun _ he => absurd he List.not_mem_nil, rfl⟩
    | some a =>
      have hvalue (i : Value) : (Value.map [(.int 1, i)]).Plain 1 ↔ i.Plain 0 := by simp
      cases a with
      | other id => exact (h _ rfl).elim
      | _ => exact ⟨_, rfl, (hvalue _).mpr (Value.plain_integer 0 _), rfl⟩

section
variable [LawfulCiborium] [FaithfulCiborium] [CosetHeader] [ReadableHeaders]

/-- the protected header of a device signature, from its bytes -/
theorem cborBstr_ofAlgorithm {a : Algorithm} (ha : a.Named) :
    ∃ bstr, ProtectedHeader.cborBstr ⟨none, Header.ofAlgorithm a⟩ = .ok bstr ∧
      ProtectedHeader.fromCborBstr bstr = .ok ⟨some bstr, Header.ofAlgorithm a⟩ := by
  obtain ⟨v, hv, hplain, hread⟩ := ReadableHeaders.readsBack (some a)
    (fun b hb => Option.some.inj hb ▸ ha)
  have hne : Header.ofAlgorithm a ≠ Header.empty := fun h => by cases h
  refine ⟨Ciborium.intoWriter v, ?_, ?_⟩
  · unfold ProtectedHeader.cborBstr
    dsimp only
    rw [if_neg hne]
    show Ciborium.intoWriter <$> CosetHeader.toCborValue ⟨(some a).map .assigned, []⟩ = _
    rw [hv]
    rfl
  · unfold ProtectedHeader.fromCborBstr
    rw [if_neg (FaithfulCiborium.intoWriter_ne_nil v),
      LawfulCiborium.fromReader_intoWriter v (hplain.mono (by decide)), ok_bind, hread]
    rfl

/-- a structure with one authenticator, and what is read of it -/
theorem structureValue_ofAlgorithm {a : Algorithm} (ha : a.Named) (authenticator : Bytes) :
    ∃ bstr u, structureValue ⟨none, Header.ofAlgorithm a⟩ Header.empty none authenticator =
        .ok (.array [.bytes bstr, u, .null, .bytes authenticator]) ∧ u.Plain 1 ∧
      ProtectedHeader.fromCborBstr bstr = .ok ⟨some bstr, Header.ofAlgorithm a⟩ ∧
      CosetHeader.fromCborValue u = .ok Header.empty ∧
      structureValue ⟨some bstr, Header.ofAlgorithm a⟩ Header.empty none authenticator =
        .ok (.array [.bytes bstr, u, .null, .bytes authenticator]) := by
  obtain ⟨bstr, hbstr, hread⟩ := cborBstr_ofAlgorithm ha
  obtain ⟨u, hu, hplain, hempty⟩ := ReadableHeaders.readsBack none (fun b hb => by cases hb)
  have hu' : CosetHeader.toCborValue Header.empty = .ok u := hu
  refine ⟨bstr, u, ?_, hplain, hread, hempty, ?_⟩
  · unfold structureValue
    rw [hbstr, ok_bind, hu']
    rfl
  · unfold structureValue
    show (CosetHeader.toCborValue Header.empty >>= _) = _
    rw [hu']
    rfl

/-- a structure without a tag reads back when its codec is that of `structureValue` -/
theorem rereads_untagged {T : Type} [Serialize (MaybeTagged T)] [Deserialize (MaybeTagged T)]
    {a : Algorithm} (ha : a.Named) (authenticator : Bytes) {f : ProtectedHeader → T}
    (hwrite : ∀ p v, structureValue p Header.empty none authenticator = .ok v →
      toValue (⟨false, f p⟩ : MaybeTagged T) = .ok v)
    (hread : ∀ bstr u p, ProtectedHeader.fromCborBstr bstr = .ok p →
      CosetHeader.fromCborValue u = .ok Header.empty →
      ofValue (.array [.bytes bstr, u, .null, .bytes authenticator]) =
        .ok (⟨false, f p⟩ : MaybeTagged T)) :
    Rereads L 2 (⟨false, f ⟨none, Header.ofAlgorithm a⟩⟩ : MaybeTagged T) := by
  obtain ⟨bstr, u, hv, hplain, hp, hu, hback⟩ := structureValue_ofAlgorithm ha authenticator
  have hplain' : (Value.array [.bytes bstr, u, .null, .bytes authenticator]).Plain 2 := by
    rw [Value.plain_array]
    simp [hplain]
  exact ⟨_, hwrite _ _ hv, Layered.of_plain hplain', _, hread bstr u _ hp hu, hwrite _ _ hback⟩

variable [Coset] [LawfulCoset]

/-- a device signature reads back -/
theorem rereads_sign1 {a : Algorithm} (ha : a.Named) (signature : Bytes) :
    Rereads L 2 (⟨false, ⟨⟨none, Header.ofAlgorithm a⟩, Header.empty, none, signature⟩⟩ :
      MaybeTagged CoseSign1) := by
  let structureOf (p : ProtectedHeader) : CoseSign1 := ⟨p, Header.empty, none, signature⟩
  refine rereads_untagged (f := structureOf) ha signature ?_ ?_
  · intro p v h
    show MaybeTagged.toCbor 18 Coset.sign1ToCborValue _ = _
    unfold MaybeTagged.toCbor
    dsimp only
    rw [LawfulCoset.sign1ToCborValue_ok.mpr h]
    rfl
  · intro bstr u p hp hu
    show (MaybeTagged.mk false ·) <$> Coset.sign1FromCborValue
      (.array [.bytes bstr, u, payloadValue none, .bytes signature]) = _
    rw [LawfulCoset.sign1FromCborValue_ok.mpr ⟨_, _, hp, hu, rfl⟩]
    rfl

/-- a device tag reads back -/
theorem rereads_mac0 {a : Algorithm} (ha : a.Named) (tag : Bytes) :
    Rereads L 2 (⟨false, ⟨⟨none, Header.ofAlgorithm a⟩, Header.empty, none, tag⟩⟩ :
      MaybeTagged CoseMac0) := by
  let structureOf (p : ProtectedHeader) : CoseMac0 := ⟨p, Header.empty, none, tag⟩
  refine rereads_untagged (f := structureOf) ha tag ?_ ?_
  · intro p v h
    show MaybeTagged.toCbor 17 Coset.mac0ToCborValue _ = _
    unfold MaybeTagged.toCbor
    dsimp only
    rw [LawfulCoset.mac0ToCborValue_ok.mpr h]
    rfl
  · intro bstr u p hp hu
    show (MaybeTagged.mk false ·) <$> Coset.mac0FromCborValue
      (.array [.bytes bstr, u, payloadValue none, .bytes tag]) = _
    rw [LawfulCoset.mac0FromCborValue_ok.mpr ⟨_, _, hp, hu, rfl⟩]
    rfl

/-- a variant that is a map with one entry reads back when the value in it does -/
theorem rereads_variant {n : Nat} {T U : Type} [Serialize T] [Deserialize T] [Serialize U]
    [Deserialize U] {name : String} {make : T → U}
    (hwrite : ∀ c, toValue (make c) = structValue [(name, some (toValue c))])
    (hread : ∀ v c, ofValue v = .ok c → ofValue (.map [(.text name, v)]) = .ok (make c))
    {c : T} (h : Rereads L n c) : Rereads L (n + 1) (make c) := by
  obtain ⟨v, hv, hplain, c', hc', hback⟩ := h
  have hmap (c : T) (hc : toValue c = .ok v) : toValue (make c) = .ok (.map [(.text name, v)]) := by
    rw [hwrite, hc]
    rfl
  refine ⟨_, hmap c hv, ?_, make c', hread v c' hc', hmap c' hback⟩
  exact Layered.map (List.forall_mem_singleton.mpr ⟨Layered.of_plain (Value.plain_text n _), hplain⟩)

theorem rereads_deviceAuth_signature {n : Nat} {c : MaybeTagged CoseSign1} (h : Rereads L n c) :
    Rereads L (n + 1) (DeviceAuth.deviceSignature c) := by
  refine rereads_variant (fun _ => rfl) (fun v c' hc' => ?_) h
  show DeviceAuth.deviceSignature <$> (ofValue v : Except String (MaybeTagged CoseSign1)) = _
  rw [hc']
  rfl

theorem rereads_deviceAuth_mac {n : Nat} {c : MaybeTagged CoseMac0} (h : Rereads L n c) :
    Rereads L (n + 1) (DeviceAuth.deviceMac c) := by
  refine rereads_variant (fun _ => rfl) (fun v c' hc' => ?_) h
  show DeviceAuth.deviceMac <$> (ofValue v : Except String (MaybeTagged CoseMac0)) = _
  rw [hc']
  rfl

/-- the part of a document that the device signs -/
theorem rereads_deviceSigned {n : Nat} {d : DeviceSigned} {namespaces : DeviceNamespaces}
    (hnamespaces : fromSlice DeviceNamespaces d.namespaces.innerBytes = .ok namespaces)
    (hauth : Rereads L (n + 1) d.deviceAuth) : Rereads L (n + 2) d := by
  obtain ⟨namespacesBytes, deviceAuth⟩ := d
  obtain ⟨v, hv, hplain, auth', hauth', hback⟩ := hauth
  let namespaces' : DeviceNamespacesBytes := ⟨namespaces, namespacesBytes.innerBytes⟩
  have hns : (ofValue namespacesBytes.toCbor : Except String DeviceNamespacesBytes) =
      .ok namespaces' := Tag24.ofValue_toCbor (t := namespaces') hnamespaces
  let l : List (String × Option Value) :=
    [("nameSpaces", some namespacesBytes.toCbor), ("deviceAuth", some v)]
  have hnodup : (l.map Prod.fst).Nodup := by simp [l]
  have hwrite (auth : DeviceAuth) (ha : toValue auth = .ok v) (t : DeviceNamespacesBytes)
      (ht : t.toCbor = namespacesBytes.toCbor) :
      toValue (⟨t, auth⟩ : DeviceSigned) = structValue (l.map fun e => (e.1, e.2.map .ok)) := by
    show structValue [("nameSpaces", some (.ok t.toCbor)), ("deviceAuth", some (toValue auth))] = _
    rw [ht, ha]
    rfl
  refine ⟨_, rereadsAs_struct ?_ (hwrite deviceAuth hv namespacesBytes rfl) ?_
    (hwrite auth' hback namespaces' rfl)⟩
  · exact List.forall_mem_cons.mpr
      ⟨layer_some (Layered.of_plain (plain_tag24 n namespacesBytes)),
        List.forall_mem_singleton.mpr (layer_some hplain)⟩
  · have hnamespaces := Fields.required_present hnodup List.mem_cons_self hns
    have hauth := Fields.required_present hnodup (List.mem_cons_of_mem _ List.mem_cons_self) hauth'
    show (Fields.ofValue _ _ >>= _) = _
    rw [Fields.ofValue_present, ok_bind, hnamespaces, ok_bind, hauth, ok_bind]

/-! ## the items of an issuer -/

theorem readsAs_items {n : Nat} {items : NonEmptyVec IssuerSignedItemBytes}
    (h : ∀ t ∈ items.toList, ∃ inner, fromSlice IssuerSignedItem t.innerBytes = .ok inner) :
    ReadsAs L (n + 2) (fun l : List IssuerSignedItemBytes => l ≠ []) items := by
  obtain ⟨vs, ⟨hv, hplain, l', hl', hback⟩, hlength⟩ := Rereads.list (L := L) (n := n + 1)
    fun t ht => (h t ht).elim fun _ hinner => ⟨_, rereadsAs_tag24 n hinner⟩
  refine ⟨.array vs, l', hv, hplain, hl', hback, ?_⟩
  intro hnil
  rw [hnil] at hback
  have harray : Value.array vs = .array [] := (Except.ok.inj hback).symm
  cases harray
  exact items.nonempty (List.length_eq_zero_iff.mp hlength.symm)

/-- `deserialize_optional_issuer_namespaces` on one entry -/
def nonEmptyEntry (e : String × List IssuerSignedItemBytes) :
    Except String (String × NonEmptyVec IssuerSignedItemBytes) :=
  match NonEmptyVec.tryFrom e.2 with
  | some items => .ok (e.1, items)
  | none => .error "expected a non-empty array"

theorem exists_nonEmptyEntries {l : List (String × List IssuerSignedItemBytes)}
    (h : ∀ e ∈ l, e.2 ≠ []) :
    ∃ entries, l.mapM nonEmptyEntry = .ok entries ∧
      entries.map (fun e => (e.1, e.2.toList)) = l := by
  induction l with
  | nil => exact ⟨[], rfl, rfl⟩
  | cons e l ih =>
    obtain ⟨name, items⟩ := e
    obtain ⟨entries, hentries, rfl⟩ := ih fun e' he => h e' (List.mem_cons_of_mem _ he)
    have hitems : items ≠ [] := h _ List.mem_cons_self
    have hentry : nonEmptyEntry (name, items) = .ok (name, ⟨items, hitems⟩) := by
      unfold nonEmptyEntry
      rw [NonEmptyVec.tryFrom_toList ⟨items, hitems⟩]
    refine ⟨(name, ⟨items, hitems⟩) :: entries, ?_, rfl⟩
    rw [List.mapM_cons, hentry, hentries]
    rfl

/-- the namespaces of a document, as they are written and read -/
theorem exists_readNamespaces {n : Nat} {namespaces : Option IssuerNamespaces}
    (h : ∀ ns, ∀ t ∈ itemsOf namespaces ns,
      ∃ inner, fromSlice IssuerSignedItem t.innerBytes = .ok inner) :
    ∃ (ov : Option Value) (namespaces' : Option IssuerNamespaces),
      namespaces.map toValue = ov.map .ok ∧ (∀ w, ov = some w → L (n + 3) w) ∧
      namespaces'.map toValue = ov.map .ok ∧
      ∀ fields : Fields, fields.find? "nameSpaces" = .ok ov →
        deserializeOptionalIssuerNamespaces fields "nameSpaces" = .ok namespaces' := by
  cases namespaces with
  | none =>
    refine ⟨none, none, rfl, (fun _ h => by cases h), rfl, ?_⟩
    intro fields hfind
    unfold deserializeOptionalIssuerNamespaces Fields.optional
    rw [hfind]
    rfl
  | some m =>
    have hitems (k : String) (items : NonEmptyVec IssuerSignedItemBytes)
        (hk : m.toMap[k]? = some items) :
        ReadsAs L (n + 2) (fun l : List IssuerSignedItemBytes => l ≠ []) items := by
      apply readsAs_items
      intro t ht
      apply h k t
      show t ∈ ((m.toMap[k]?).map NonEmptyVec.toList).getD []
      rw [hk]
      exact ht
    obtain ⟨kvs, m', hv, hplain, hm', hback, hkeys, hne⟩ := readsAs_textMap hitems
    obtain ⟨entries, hentries, hlist⟩ := exists_nonEmptyEntries hne
    have hm'ne : m' ≠ ∅ := by
      rw [← BTreeMap.toList_ne_nil]
      intro hnil
      rw [hnil, List.map_nil] at hkeys
      exact BTreeMap.toList_ne_nil.mpr m.nonempty (List.map_eq_nil_iff.mp hkeys.symm)
    let read : BTreeMap String (NonEmptyVec IssuerSignedItemBytes) :=
      Std.ExtTreeMap.ofList entries compare
    have hread : read.toList = entries := by
      apply BTreeMap.toList_ofList_of_keys (m := m')
      rw [← hlist, List.map_map]
      rfl
    have hreadne : read ≠ ∅ := by
      rw [← BTreeMap.toList_ne_nil, hread]
      intro hnil
      rw [hnil] at hlist
      exact BTreeMap.toList_ne_nil.mpr hm'ne hlist.symm
    have hreadback : toValue read = .ok (.map kvs) := by
      rw [toValue_textMap_eq, hread, ← hback, toValue_textMap_eq, ← hlist, List.mapM_map]
      rfl
    refine ⟨some (.map kvs), some ⟨read, hreadne⟩, congrArg some hv, layer_some hplain,
      congrArg some hreadback, ?_⟩
    intro fields hfind
    have hempty : ¬ m'.isEmpty = true := fun he => hm'ne (Std.ExtTreeMap.isEmpty_iff.mp he)
    have hoptional : fields.optional "nameSpaces" (BTreeMap String (List IssuerSignedItemBytes)) =
        .ok (some m') := by
      unfold Fields.optional
      rw [hfind]
      show some <$> (ofValue (.map kvs) : Except String (BTreeMap String _)) = _
      rw [hm']
      rfl
    have hsome : NonEmptyMap.tryFrom (Std.ExtTreeMap.ofList entries compare) =
        some ⟨read, hreadne⟩ := NonEmptyMap.tryFrom_eq_some.mpr rfl
    unfold deserializeOptionalIssuerNamespaces
    rw [hoptional, ok_bind]
    dsimp only
    rw [if_neg hempty]
    show (m'.toList.mapM nonEmptyEntry >>= fun entries => _) = _
    rw [hentries, ok_bind, hsome]

/-- the part of a document that the issuer signed -/
theorem rereads_issuerSigned {n : Nat} {i : IssuerSigned}
    (hitems : ∀ ns, ∀ t ∈ itemsOf i.namespaces ns,
      ∃ inner, fromSlice IssuerSignedItem t.innerBytes = .ok inner)
    (hauth : Rereads L (n + 3) i.issuerAuth) : Rereads L (n + 4) i := by
  obtain ⟨namespaces, issuerAuth⟩ := i
  obtain ⟨v, hv, hplain, auth', hauth', hback⟩ := hauth
  obtain ⟨ov, namespaces', hwritten, hplains, hback', hread⟩ :=
    exists_readNamespaces (L := L) (n := n) hitems
  let l : List (String × Option Value) := [("nameSpaces", ov), ("issuerAuth", some v)]
  have hnodup : (l.map Prod.fst).Nodup := by simp [l]
  have hwrite (namespaces : Option IssuerNamespaces) (auth : MaybeTagged CoseSign1)
      (hns : namespaces.map toValue = ov.map .ok) (ha : toValue auth = .ok v) :
      toValue (⟨namespaces, auth⟩ : IssuerSigned) =
        structValue (l.map fun e => (e.1, e.2.map .ok)) := by
    show structValue [("nameSpaces", namespaces.map toValue),
      ("issuerAuth", some (toValue auth))] = _
    rw [hns, ha]
    rfl
  refine ⟨_, rereadsAs_struct ?_ (hwrite namespaces issuerAuth hwritten hv) ?_
    (hwrite namespaces' auth' hback' hback)⟩
  · exact List.forall_mem_cons.mpr
      ⟨hplains, List.forall_mem_singleton.mpr (layer_some hplain)⟩
  · have hnamespaces := hread _ (Fields.find?_present hnodup List.mem_cons_self)
    have hauth := Fields.required_present hnodup (List.mem_cons_of_mem _ List.mem_cons_self) hauth'
    show (Fields.ofValue _ _ >>= _) = _
    rw [Fields.ofValue_present, ok_bind, hnamespaces, ok_bind, hauth, ok_bind]

/-! ## a response -/

theorem rereads_errors {n : Nat} {m : NonEmptyMap String DocumentErrorCode}
    (h : ∀ (k : String) (c : DocumentErrorCode), m.toMap[k]? = some c → c = .DataNotReturned) :
    Rereads L (n + 1) m := by
  obtain ⟨kvs, hkvs⟩ := Rereads.nonEmptyMap (L := L) fun k c hk =>
    ⟨.int 0, h k c hk ▸ rereadsAs_documentErrorCode n⟩
  exact ⟨_, hkvs⟩

/-- a document reads back when its parts do -/
theorem rereads_document {n : Nat} {d : DeviceResponse.Document}
    (hissuer : Rereads L (n + 2) d.issuerSigned) (hdevice : Rereads L (n + 2) d.deviceSigned)
    (herrors : ∀ m, d.errors = some m → ∀ (k : String) (e : NonEmptyMap String DocumentErrorCode),
      m.toMap[k]? = some e → Rereads L (n + 1) e) : Rereads L (n + 3) d := by
  obtain ⟨docType, issuerSigned, deviceSigned, errors⟩ := d
  obtain ⟨vi, hvi, hplaini, issuer', hissuer', hbacki⟩ := hissuer
  obtain ⟨vd, hvd, hplaind, device', hdevice', hbackd⟩ := hdevice
  obtain ⟨ov, errors', hwritten, hplains, hread, hback⟩ := exists_fieldReads (n := n + 2)
    (o := errors) fun m hm => by
      obtain ⟨kvs, hkvs⟩ := Rereads.nonEmptyMap (herrors m hm)
      exact ⟨_, hkvs, fun h => by cases h⟩
  let l : List (String × Option Value) := [("docType", some (.text docType)),
    ("issuerSigned", some vi), ("deviceSigned", some vd), ("errors", ov)]
  have hnodup : (l.map Prod.fst).Nodup := by simp [l]
  have hwrite (i : IssuerSigned) (d : DeviceSigned) (e : Option NamespaceErrors)
      (hi : toValue i = .ok vi) (hd : toValue d = .ok vd) (he : e.map toValue = ov.map .ok) :
      toValue (⟨docType, i, d, e⟩ : DeviceResponse.Document) =
        structValue (l.map fun e => (e.1, e.2.map .ok)) := by
    show structValue [("docType", some (.ok (.text docType))), ("issuerSigned", some (toValue i)),
      ("deviceSigned", some (toValue d)), ("errors", e.map toValue)] = _
    rw [hi, hd, he]
    rfl
  refine ⟨_, rereadsAs_struct ?_ (hwrite _ _ _ hvi hvd hwritten) ?_
    (hwrite issuer' device' errors' hbacki hbackd hback)⟩
  · exact List.forall_mem_cons.mpr ⟨layer_some (Layered.of_plain (Value.plain_text _ _)),
      List.forall_mem_cons.mpr ⟨layer_some hplaini,
        List.forall_mem_cons.mpr ⟨layer_some hplaind, List.forall_mem_singleton.mpr hplains⟩⟩⟩
  · have hdoc := Fields.required_present (α := String) (a := docType) hnodup List.mem_cons_self rfl
    have hi := Fields.required_present hnodup
      (List.mem_cons_of_mem _ List.mem_cons_self) hissuer'
    have hd := Fields.required_present hnodup
      (List.mem_cons_of_mem _ (List.mem_cons_of_mem _ List.mem_cons_self)) hdevice'
    have he := Fields.optional_present hnodup (List.mem_cons_of_mem _
      (List.mem_cons_of_mem _ (List.mem_cons_of_mem _ List.mem_cons_self))) hread
    show (Fields.ofValue _ _ >>= _) = _
    rw [Fields.ofValue_present, ok_bind, hdoc, ok_bind, hi, ok_bind, hd, ok_bind, he, ok_bind]

/-- a response reads back when its documents and its errors do -/
theorem rereads_deviceResponse {n : Nat} {r : DeviceResponse}
    (hdocuments : ∀ l, r.documents = some l → ∀ d ∈ l.toList, Rereads L (n + 1) d)
    (herrors : ∀ l, r.documentErrors = some l → ∀ e ∈ l.toList, Rereads L (n + 1) e) :
    Rereads L (n + 3) r := by
  obtain ⟨version, documents, documentErrors, status⟩ := r
  obtain ⟨dv, documents', hdv, hdplain, hdread, hdback⟩ := exists_fieldReads (n := n + 2)
    (o := documents) fun l hl => by
      obtain ⟨vs, hvs⟩ := Rereads.nonEmptyVec (hdocuments l hl)
      exact ⟨_, hvs, fun h => by cases h⟩
  obtain ⟨ev, errors', hev, heplain, heread, heback⟩ := exists_fieldReads (n := n + 2)
    (o := documentErrors) fun l hl => by
      obtain ⟨vs, hvs⟩ := Rereads.nonEmptyVec (herrors l hl)
      exact ⟨_, hvs, fun h => by cases h⟩
  have hstatus := rereadsAs_status (L := L) (n + 2) status
  let l : List (String × Option Value) := [("version", some (.text version)),
    ("documents", dv), ("documentErrors", ev), ("status", some (Value.ofUInt64 status.toUInt64))]
  have hnodup : (l.map Prod.fst).Nodup := by simp [l]
  have hwrite (documents : Option (NonEmptyVec DeviceResponse.Document))
      (errors : Option DocumentErrors) (hd : documents.map toValue = dv.map .ok)
      (he : errors.map toValue = ev.map .ok) :
      toValue (⟨version, documents, errors, status⟩ : DeviceResponse) =
        structValue (l.map fun e => (e.1, e.2.map .ok)) := by
    show structValue [("version", some (.ok (.text version))), ("documents", documents.map toValue),
      ("documentErrors", errors.map toValue), ("status", some (toValue status))] = _
    rw [hd, he]
    rfl
  refine ⟨_, rereadsAs_struct ?_ (hwrite _ _ hdv hev) ?_ (hwrite documents' errors' hdback heback)⟩
  · exact List.forall_mem_cons.mpr ⟨layer_some (Layered.of_plain (Value.plain_text _ _)),
      List.forall_mem_cons.mpr ⟨hdplain, List.forall_mem_cons.mpr ⟨heplain,
        List.forall_mem_singleton.mpr (layer_some hstatus.layer)⟩⟩⟩
  · have hversion := Fields.required_present (α := String) (a := version) hnodup
      List.mem_cons_self rfl
    have hd := Fields.optional_present hnodup (List.mem_cons_of_mem _ List.mem_cons_self) hdread
    have he := Fields.optional_present hnodup
      (List.mem_cons_of_mem _ (List.mem_cons_of_mem _ List.mem_cons_self)) heread
    have hs := Fields.required_present (α := DeviceResponse.Status) (a := status) hnodup
      (List.mem_cons_of_mem _
        (List.mem_cons_of_mem _ (List.mem_cons_of_mem _ List.mem_cons_self)))
      (by cases status <;> rfl)
    show (Fields.ofValue _ _ >>= _) = _
    rw [Fields.ofValue_present, ok_bind, hversion, ok_bind, hd, ok_bind, he, ok_bind, hs, ok_bind]

namespace Device

/-- a response that reads back passes the self-check -/
theorem selfChecks_of_readsBack {r : DeviceResponse} (h : ReadsBack 16 r) :
    ∃ bytes, SessionManager.SelfChecks r bytes := by
  obtain ⟨v, hv, hplain, r', hr', hback⟩ := h
  exact ⟨_, toVec_ok hv, r', LawfulCiborium.fromSlice_intoWriter hplain hr', toVec_ok hback⟩

/-- what a device holds is what a codec could have read: the issuer's signature reads back, and the
bytes of every item are an item's -/
structure Document.Readable (document : Document) : Prop where
  issuerAuth : ReadsBack 12 document.issuerAuth
  items : ∀ ns element t, document.held ns element = some t →
    ∃ inner, fromSlice IssuerSignedItem t.innerBytes = .ok inner

/-- the loops report only one code -/
theorem Disclosure.error_eq {document : Document} {namespaces : BTreeMap String (List String)}
    {ns element : String} {c : DocumentErrorCode}
    (h : (ofNamespaces document namespaces).error ns element = some c) : c = .DataNotReturned := by
  have hfold (l : List (String × List String)) (d : Disclosure)
      (hd : ∀ c, d.error ns element = some c → c = .DataNotReturned) :
      ∀ c, (l.foldl (fun d entry => entry.2.foldl (addElement document entry.1) d) d).error ns
        element = some c → c = .DataNotReturned := by
    induction l generalizing d with
    | nil => exact hd
    | cons entry l ih =>
      rw [List.foldl_cons]
      apply ih
      intro c hc
      rw [error_foldl] at hc
      split at hc
      · exact (Option.some.inj hc).symm
      · exact hd c hc
  exact hfold namespaces.toList empty (fun _ h => by cases h) c h

theorem signatureAlgorithm_named {key : CoseKey} {a : Algorithm}
    (h : key.signatureAlgorithm = some a) : a.Named := by
  cases key with
  | EC2 crv x y => cases crv <;> cases h <;> trivial
  | OKP crv x => cases crv <;> cases h <;> trivial

/-- a device signature or tag reads back -/
theorem rereads_deviceAuth {deviceAuthType : DeviceAuthType} {a : Algorithm}
    (ha : a.Named) {payload signature : Bytes} {d : PreparedDocument}
    (h : prepareCose deviceAuthType a payload = some d.preparedCose) :
    Rereads L 12 (d.finalize signature).deviceSigned.deviceAuth := by
  unfold PreparedDocument.finalize
  generalize d.preparedCose = cose at h ⊢
  cases deviceAuthType with
  | Sign1 =>
    cases h
    exact rereads_deviceAuth_signature ((rereads_sign1 ha signature).mono (by decide))
  | Mac0 =>
    cases h
    exact rereads_deviceAuth_mac ((rereads_mac0 ha signature).mono (by decide))

theorem fromSlice_deviceNamespaces {t : DeviceNamespacesBytes}
    (h : Tag24.new (∅ : DeviceNamespaces) = .ok t) :
    fromSlice DeviceNamespaces t.innerBytes = .ok ∅ := by
  have hvec : toVec (∅ : DeviceNamespaces) = .ok (Ciborium.intoWriter (.map [])) := toVec_ok rfl
  obtain ⟨-, hbytes⟩ := Tag24.new_ok h
  rw [hvec] at hbytes
  rw [← Except.ok.inj hbytes]
  exact LawfulCiborium.fromSlice_intoWriter (fun _ h => absurd h List.not_mem_nil) rfl

theorem rereads_dataNotReturned (docType : String) : Rereads L 14 (dataNotReturned docType) := by
  have hvalues (k : String) (c : DocumentErrorCode) (hk : (dataNotReturned docType)[k]? = some c) :
      Rereads L 13 c := by
    unfold dataNotReturned at hk
    rw [BTreeMap.getElem?_insert, Std.ExtTreeMap.getElem?_empty] at hk
    split at hk
    · cases hk
      exact ⟨_, rereadsAs_documentErrorCode 13⟩
    · cases hk
  obtain ⟨kvs, hkvs⟩ := Rereads.textMap hvalues
  exact ⟨_, hkvs⟩

/-- the documents of a prepared response have `Q`, whatever is signed, and its errors are the ones
that a session reports -/
structure PreparedDeviceResponse.Each (Q : DeviceResponse.Document → Prop)
    (p : PreparedDeviceResponse) : Prop where
  prepared : ∀ d ∈ p.preparedDocuments, ∀ signature, Q (d.finalize signature)
  signed : ∀ d ∈ p.signedDocuments, Q d
  errors : ∀ l, p.documentErrors = some l → ∀ e ∈ l.toList, ∃ docType, e = dataNotReturned docType

namespace PreparedDeviceResponse

variable {Q : DeviceResponse.Document → Prop}

theorem Each.empty (status : DeviceResponse.Status) :
    Each Q (PreparedDeviceResponse.empty status) where
  prepared d hd := absurd hd List.not_mem_nil
  signed d hd := absurd hd List.not_mem_nil
  errors l hl := by cases hl

theorem Each.submitNextSignature {p : PreparedDeviceResponse} (h : p.Each Q) (signature : Bytes) :
    (p.submitNextSignature signature).Each Q := by
  cases List.eq_nil_or_concat p.preparedDocuments with
  | inl hnil =>
    rw [submitNextSignature_nil hnil]
    exact h
  | inr hconcat =>
    obtain ⟨rest, document, hconcat⟩ := hconcat
    rw [List.concat_eq_append] at hconcat
    rw [submitNextSignature_append hconcat]
    refine ⟨fun d hd => ?_, fun d hd => ?_, h.errors⟩
    · apply h.prepared d
      rw [hconcat]
      exact List.mem_append_left _ hd
    · rcases List.mem_append.mp hd with hd | hd
      · exact h.signed d hd
      · obtain rfl := List.mem_singleton.mp hd
        apply h.prepared document
        rw [hconcat]
        exact List.mem_append_right _ (List.mem_singleton_self document)

theorem Each.signedBy {p : PreparedDeviceResponse} (h : p.Each Q) (signatures : List Bytes) :
    (p.signedBy signatures).Each Q := by
  induction signatures generalizing p with
  | nil =>
    rw [signedBy_nil]
    exact h
  | cons signature signatures ih =>
    rw [signedBy_cons]
    exact ih (h.submitNextSignature signature)

theorem Each.documentList {p : PreparedDeviceResponse} (h : p.Each Q) :
    ∀ d ∈ p.finalizeResponse.documentList, Q d := by
  intro d hd
  unfold PreparedDeviceResponse.finalizeResponse at hd
  split at hd
  · cases hsigned : NonEmptyVec.tryFrom p.signedDocuments with
    | none =>
      simp only [DeviceResponse.documentList, hsigned] at hd
      exact absurd hd List.not_mem_nil
    | some l =>
      simp only [DeviceResponse.documentList, hsigned] at hd
      apply h.signed d
      rw [NonEmptyVec.tryFrom_eq_some.mp hsigned]
      exact hd
  · exact absurd hd List.not_mem_nil

/-- **A prepared response is finalized to one that reads back** when its documents do. -/
theorem Each.finalizeResponse {p : PreparedDeviceResponse} (h : p.Each Q)
    (hdocuments : ∀ d ∈ p.finalizeResponse.documentList, Rereads L 14 d) :
    Rereads L 16 p.finalizeResponse := by
  refine rereads_deviceResponse (n := 13) (fun l hl d hd => ?_) (fun l hl e he => ?_)
  · apply hdocuments d
    unfold DeviceResponse.documentList
    rw [hl]
    exact hd
  · have herrors : p.documentErrors = some l := by
      unfold PreparedDeviceResponse.finalizeResponse at hl
      split at hl
      · exact hl
      · cases hl
    obtain ⟨docType, rfl⟩ := h.errors l herrors e he
    exact rereads_dataNotReturned docType

end PreparedDeviceResponse

/-- what a document of a response has from the documents that are held, and from the device -/
structure FromHeld (documents : Documents) (d : DeviceResponse.Document) : Prop where
  held : ∃ (docType : String) (document : Document), documents.toMap[docType]? = some document ∧
    d.issuerSigned.issuerAuth = document.issuerAuth ∧
    ∀ ns, ∀ t ∈ itemsOf d.issuerSigned.namespaces ns, ∃ element, document.held ns element = some t
  deviceSigned (L : Nat → Value → Prop) [Layered L] : Rereads L 13 d.deviceSigned
  errors (L : Nat → Value → Prop) [Layered L] : ∀ m, d.errors = some m →
    ∀ (k : String) (e : NonEmptyMap String DocumentErrorCode), m.toMap[k]? = some e → Rereads L 12 e

/-- **A document of a response reads back** when its issuer's signature does, and its items' bytes
are an item's. -/
theorem FromHeld.rereads {documents : Documents} {d : DeviceResponse.Document}
    (h : FromHeld documents d) (hauth : Rereads L 12 d.issuerSigned.issuerAuth)
    (hitems : ∀ ns, ∀ t ∈ itemsOf d.issuerSigned.namespaces ns,
      ∃ inner, fromSlice IssuerSignedItem t.innerBytes = .ok inner) : Rereads L 14 d :=
  rereads_document (n := 11) (rereads_issuerSigned (n := 9) hitems hauth) (h.deviceSigned L)
    (h.errors L)

section
variable {S : Type} [Serialize S] {documents : Documents} {sessionTranscript : S}
  {deviceAuthType : DeviceAuthType}

/-- a signed document is made of the held one -/
theorem fromHeld_finalize {docType : String} {namespaces : BTreeMap String (List String)}
    {d : PreparedDocument}
    (h : prepareDocument documents sessionTranscript deviceAuthType docType namespaces = some d)
    (signature : Bytes) : FromHeld documents (d.finalize signature) := by
  obtain ⟨document, algorithm, deviceNamespaces, payload, cose, hdocument, halgorithm, hnamespaces,
    -, hcose, rfl⟩ := prepareDocument_eq_some.mp h
  refine ⟨⟨docType, document, hdocument, rfl, ?_⟩, fun L _ => ?_, fun L _ => ?_⟩
  · intro ns t ht
    have hdisclosed := document.disclosed_prepared docType ns namespaces deviceNamespaces cose
    have hmem : t ∈ (Disclosure.ofNamespaces document namespaces).items ns := hdisclosed ▸ ht
    obtain ⟨-, -, element, -, hheld⟩ :=
      (Disclosure.mem_ofNamespaces document namespaces ns t).mp hmem
    exact ⟨element, hheld⟩
  · exact rereads_deviceSigned (n := 11) (fromSlice_deviceNamespaces hnamespaces)
      (rereads_deviceAuth (signatureAlgorithm_named halgorithm) hcose)
  · intro m hm ns errors herrors
    refine rereads_errors ?_
    intro element c hc
    have hmap : NonEmptyMap.tryFrom (Disclosure.ofNamespaces document namespaces).errors = some m :=
      hm
    have hreported : (document.prepared docType namespaces deviceNamespaces cose).reported ns
        element = some c := by
      show ((NonEmptyMap.tryFrom (Disclosure.ofNamespaces document namespaces).errors).bind
        fun m => m.toMap[ns]?).bind (fun errors => errors.toMap[element]?) = some c
      rw [hmap, Option.bind_some, herrors, Option.bind_some, hc]
    rw [document.reported_prepared] at hreported
    exact Disclosure.error_eq hreported

theorem each_sessionPrepareResponse {requests : RequestedItems} {permitted : PermittedItems} :
    (sessionPrepareResponse documents sessionTranscript deviceAuthType requests
      permitted).Each (FromHeld documents) where
  prepared d hd signature := by
    obtain ⟨namespaces, -, hprepare⟩ := mem_preparedDocuments.mp hd
    exact fromHeld_finalize hprepare signature
  signed d hd := absurd hd List.not_mem_nil
  errors l hl e he := by
    have hlist : (prepareDocuments documents sessionTranscript deviceAuthType
        (filterPermitted requests permitted).toList).2 = l.toList :=
      NonEmptyVec.tryFrom_eq_some.mp hl
    rw [← hlist, prepareDocuments_eq] at he
    obtain ⟨entry, -, hentry⟩ := List.mem_filterMap.mp he
    split at hentry
    · cases hentry
      exact ⟨entry.1, rfl⟩
    · cases hentry

end

end Device

end

namespace Device

section
open scoped Reference

namespace Sample

def readableItem : IssuerSignedItemBytes :=
  tag24 ⟨DigestId.new 1, ⟨[1, 2, 3]⟩, "family_name", .text "Mustermann"⟩
    (.map [(.text "digestID", .int 1), (.text "random", .bytes [1, 2, 3]),
      (.text "elementIdentifier", .text "family_name"), (.text "elementValue", .text "Mustermann")])

/-- a session whose document reads back -/
def readableSession : SessionManager :=
  { sessionManager ⟨[]⟩ with
    documents := NonEmptyMap.new "org.iso.18013.5.1.mDL"
      { id := ⟨List.replicate 16 1, rfl⟩
        issuerAuth := ⟨false, ⟨⟨none, Header.empty⟩, Header.empty, none, []⟩⟩
        mso := mso coseKey
        namespaces :=
          NonEmptyMap.new "org.iso.18013.5.1" (NonEmptyMap.new "family_name" readableItem) } }

end Sample

end

end Device

end Isomdl
