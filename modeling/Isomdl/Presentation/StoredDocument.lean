import Isomdl.Definitions.ValidityInfo
import Isomdl.Namespaces.KeyLaw
import Isomdl.Presentation.Reencoding

/-!
# Documents that are stored (`presentation/mod.rs`)

A device keeps a document as a string: the Base64 of its CBOR.  The codec is the derived one, so a
stored document is read field by field; dates lose their fractions, and an embedded item gets its
value from its bytes.  What is read is stored as the same string again.

* `Stringify.parse_stringify`      a value that is read as one that is written alike;
* `rereadsAs_mso`                  the security object;
* `Document.stored_roundTrip`      a document.
-/

set_option linter.unusedSectionVars false

namespace Isomdl

open Cbor

/-! ## `Stringify` -/

/-- `base64::encode` -/
class StandardBase64Encode extends StandardBase64 where
  encode : Bytes → String

/-- what was encoded decodes -/
class LawfulStandardBase64 extends StandardBase64Encode where
  decode_encode (bytes : Bytes) : decode (encode bytes) = .ok bytes

namespace Stringify

section
variable [Ciborium] [StandardBase64Encode] {α : Type}

/-- `Stringify::stringify` -/
def stringify [Serialize α] (a : α) : Except String String := do
  let data ← (toVec a).mapError CborError.display
  .ok (StandardBase64Encode.encode data)

/-- `Stringify::parse` -/
def parse (α : Type) [Deserialize α] (encoded : String) : Except String α := do
  let data ← StandardBase64.decode encoded
  (fromSlice α data).mapError CborError.display

theorem stringify_of_toValue [Serialize α] {a : α} {v : Value} (h : toValue a = .ok v) :
    stringify a = .ok (StandardBase64Encode.encode (Ciborium.intoWriter v)) := by
  unfold stringify
  rw [toVec_ok h]
  rfl

end

/-- **A string is read as a value that is written as the same string**, when the data item is. -/
theorem parse_stringify [Ciborium] [LawfulStandardBase64] {α : Type} [Serialize α] [Deserialize α]
    {n : ℕ} {a : α} {v : Value} (h : RereadsAs AnyLayer n a v)
    (hciborium : Ciborium.fromReader (Ciborium.intoWriter v) = .ok v) :
    ∃ s a', stringify a = .ok s ∧ parse α s = .ok a' ∧ stringify a' = .ok s ∧ toValue a' = .ok v := by
  obtain ⟨a', hread, hback⟩ := h.read
  refine ⟨_, a', stringify_of_toValue h.written, ?_, stringify_of_toValue hback, hback⟩
  have hslice : fromSlice α (Ciborium.intoWriter v) = .ok a' := by
    rw [fromSlice, hciborium, ok_bind, hread]
  unfold parse
  rw [LawfulStandardBase64.decode_encode, ok_bind, hslice]
  rfl

end Stringify

/-! ## the codec of a document -/

/-- `uuid`, in a format that is not read by people -/
instance : Serialize Uuid := ⟨fun u => .ok (.bytes u.1)⟩

instance : Deserialize Uuid where
  ofValue v :=
    match v.untagged with
    | .bytes b => if h : b.length = 16 then .ok ⟨b, h⟩ else .error "UUID parsing failed"
    | _ => .error "invalid type: expected bytes"

section
variable [Ciborium] [Coset] [Rfc3339]

instance : Serialize Device.Document where
  toValue d := structValue
    [("id", some (toValue d.id)), ("issuer_auth", some (toValue d.issuerAuth)),
     ("mso", some (toValue d.mso)), ("namespaces", some (toValue d.namespaces))]

instance : Deserialize Device.Document where
  ofValue v := do
    let fields ← Fields.ofValue "Document" v
    let id ← fields.required "id" Uuid
    let issuerAuth ← fields.required "issuer_auth" (MaybeTagged CoseSign1)
    let mso ← fields.required "mso" Mso
    let namespaces ← fields.required "namespaces"
      (NonEmptyMap String (NonEmptyMap String IssuerSignedItemBytes))
    .ok { id, issuerAuth, mso, namespaces }

end

/-! ## maps with any keys -/

/-- **A map is written as its entries, in order.** -/
theorem toValue_map {K V : Type} [Ord K] [Std.TransOrd K] [Serialize K] [Serialize V]
    {f : K → Value} {g : V → Value} (hk : ∀ k, toValue k = .ok (f k))
    (hv : ∀ v, toValue v = .ok (g v)) (m : BTreeMap K V) :
    toValue m = .ok (.map (m.toList.map fun e => (f e.1, g e.2))) := by
  have hentries (l : List (K × V)) :
      (l.mapM fun e => do
        let k ← (toValue e.1 : Except String Value)
        let v ← toValue e.2
        .ok (k, v)) = .ok (l.map fun e => (f e.1, g e.2)) := by
    induction l with
    | nil => rfl
    | cons e l ih =>
      rw [List.mapM_cons, ih, List.map_cons]
      show ((toValue e.1 >>= fun k => toValue e.2 >>= fun v => .ok (k, v)) >>= fun x => _) = _
      rw [hk, ok_bind, hv]
      rfl
  exact congrArg (Value.map <$> ·) (hentries m.toList)

/-- **A map reads back when its keys and values do.** -/
theorem ofValue_map {K V : Type} [Ord K] [Std.TransOrd K] [Std.LawfulEqOrd K] [BEq K] [LawfulBEq K]
    [Deserialize K] [Deserialize V] {f : K → Value} {g : V → Value} {m : BTreeMap K V}
    (h : ∀ e ∈ m.toList, ofValue (f e.1) = .ok e.1 ∧ ofValue (g e.2) = .ok e.2) :
    (ofValue (.map (m.toList.map fun e => (f e.1, g e.2))) : Except String (BTreeMap K V)) =
      .ok m := by
  have hentries := mapM_map_ok
    (f := fun p : Value × Value => do
      let k ← (ofValue p.1 : Except String K)
      let v ← (ofValue p.2 : Except String V)
      .ok (k, v))
    (g := fun e : K × V => (f e.1, g e.2)) (l := m.toList) (fun e he => by
      show (ofValue (f e.1) >>= fun k => ofValue (g e.2) >>= fun v => .ok (k, v)) = Except.ok e
      rw [(h e he).1, ok_bind, (h e he).2]
      rfl)
  show (List.mapM _ _ >>= fun entries => Except.ok (Std.ExtTreeMap.ofList entries compare)) = _
  rw [hentries]
  exact congrArg Except.ok (BTreeMap.ofList_toList m)

/-! ## `i128` keys -/

theorem ofBe_dropWhile_zero (bs : Bytes) : ofBe (bs.dropWhile (· == 0)) = ofBe bs := by
  induction bs with
  | nil => rfl
  | cons b bs ih =>
    by_cases hb : b = 0
    · rw [List.dropWhile_cons_of_pos (by simp [hb]), ih, hb]
      rfl
    · rw [List.dropWhile_cons_of_neg (by simp [hb])]

theorem bignum?_beBytes {n : ℕ} (h : n < 2 ^ 127) :
    Value.bignum? (.bytes ((beBytes 16 n).dropWhile (· == 0))) = some n := by
  have hlength : (((beBytes 16 n).dropWhile (· == 0)).dropWhile (· == 0)).length ≤ 16 := by
    have hsub (bs : Bytes) : (bs.dropWhile (· == 0)).Sublist bs := List.dropWhile_sublist _
    have hle := ((hsub _).trans (hsub (beBytes 16 n))).length_le
    rwa [length_beBytes] at hle
  unfold Value.bignum?
  dsimp only
  rw [if_pos hlength, ofBe_dropWhile_zero, ofBe_dropWhile_zero, ofBe_beBytes (by omega)]

/-- **An `i128` reads back**, as an integer or as a bignum. -/
theorem ofValue_ofI128 {i : Int} (hlo : -(2 ^ 127) ≤ i) (hhi : i < 2 ^ 127) :
    (ofValue (ofI128 i) : Except String Int) = .ok i := by
  have hinteger : (ofI128 i).integer? = some i := by
    unfold ofI128
    split
    · rfl
    · split
      · unfold Value.integer?
        rw [if_pos rfl, bignum?_beBytes (by omega)]
        show some (i.toNat : Int) = some i
        rw [Int.toNat_of_nonneg ‹0 ≤ i›]
      · unfold Value.integer?
        rw [if_neg (by decide), if_pos rfl, bignum?_beBytes (by omega)]
        show some (-1 - ((-1 - i).toNat : Int)) = some i
        rw [Int.toNat_of_nonneg (by omega)]
        congr 1
        omega
  show boundedInt (-(2 ^ 127)) (2 ^ 127 - 1) (ofI128 i) = _
  unfold boundedInt
  rw [hinteger]
  exact if_pos ⟨hlo, by omega⟩

/-! ## the security object -/

/-- a depth that is not looked at -/
theorem RereadsAs.any {α : Type} [Serialize α] [Deserialize α] {m : ℕ} {a : α} {v : Value}
    (h : RereadsAs AnyLayer m a v) (n : ℕ) : RereadsAs AnyLayer n a v :=
  ⟨h.written, trivial, h.read⟩

theorem KeyAuthorizations.rereadsAs (n : ℕ) (a : KeyAuthorizations) :
    ∃ v, RereadsAs AnyLayer n a v ∧ v ≠ .null := by
  obtain ⟨namespaces, dataElements⟩ := a
  let names (l : NonEmptyVec String) : Value := .array (l.toList.map .text)
  let elements (m : NonEmptyMap String (NonEmptyVec String)) : Value :=
    .map (m.toMap.toList.map fun e => (.text e.1, names e.2))
  let l : List (String × Option Value) :=
    [("nameSpaces", namespaces.map names), ("dataElements", dataElements.map elements)]
  have hnames (l : NonEmptyVec String) : toValue l = .ok (names l) :=
    toValue_array fun _ _ => rfl
  have hreadNames (l : NonEmptyVec String) : ofValue (names l) = .ok l :=
    l.ofValue_array fun _ _ => rfl
  have hnodup : (l.map Prod.fst).Nodup := by simp [l]
  have hwrite : toValue (⟨namespaces, dataElements⟩ : KeyAuthorizations) =
      structValue (l.map fun e => (e.1, e.2.map .ok)) := by
    show structValue [("nameSpaces", namespaces.map toValue),
      ("dataElements", dataElements.map toValue)] = _
    have hfirst : namespaces.map toValue = (namespaces.map names).map .ok := by
      rw [Option.map_map]
      exact Option.map_congr fun l _ => hnames l
    have hsecond : dataElements.map toValue = (dataElements.map elements).map .ok := by
      rw [Option.map_map]
      exact Option.map_congr fun m _ => toValue_textMap hnames m.toMap
    rw [hfirst, hsecond]
    rfl
  have hread : ofValue (.map ((BTreeMap.present l).map fun e => (.text e.1, e.2))) =
      .ok (⟨namespaces, dataElements⟩ : KeyAuthorizations) := by
    have hfirst := Fields.optional_present (α := NonEmptyVec String) (a := namespaces) hnodup
      List.mem_cons_self (by
        cases namespaces with
        | none => exact .inl ⟨rfl, rfl⟩
        | some ns => exact .inr ⟨_, ns, rfl, Value.noConfusion, rfl, hreadNames ns⟩)
    have hsecond := Fields.optional_present (α := NonEmptyMap String (NonEmptyVec String))
      (a := dataElements) hnodup (List.mem_cons_of_mem _ List.mem_cons_self) (by
        cases dataElements with
        | none => exact .inl ⟨rfl, rfl⟩
        | some m =>
          exact .inr ⟨_, m, rfl, Value.noConfusion, rfl, NonEmptyMap.ofValue_textMap hreadNames m⟩)
    show (Fields.ofValue _ _ >>= _) = _
    rw [Fields.ofValue_present, ok_bind, hfirst, ok_bind, hsecond, ok_bind]
  exact ⟨_, (rereadsAs_struct (n := 0) (fun _ _ _ _ => trivial) hwrite hread hwrite).any n,
    fun h => by cases h⟩

/-- the keys of the information about a device key are `i128`s -/
def DeviceKeyInfo.InI128 (i : DeviceKeyInfo) : Prop :=
  ∀ m, i.keyInfo = some m → ∀ k ∈ m, -(2 ^ 127) ≤ k ∧ k < 2 ^ 127

theorem DeviceKeyInfo.rereadsAs {n : ℕ} {i : DeviceKeyInfo} (h : i.InI128) :
    ∃ v, RereadsAs AnyLayer n i v := by
  obtain ⟨deviceKey, keyAuthorizations, keyInfo⟩ := i
  obtain ⟨ov, authorizations', hwritten, -, hread, hback⟩ :=
    exists_fieldReads (L := AnyLayer) (n := n) (o := keyAuthorizations) fun a _ => a.rereadsAs n
  let entries (m : BTreeMap Int Value) : Value := .map (m.toList.map fun e => (ofI128 e.1, e.2))
  let l : List (String × Option Value) :=
    [("deviceKey", some deviceKey.toCbor), ("keyAuthorizations", ov),
     ("keyInfo", keyInfo.map entries)]
  have hnodup : (l.map Prod.fst).Nodup := by simp [l]
  have hwrite (a : Option KeyAuthorizations) (ha : a.map toValue = ov.map .ok) :
      toValue (⟨deviceKey, a, keyInfo⟩ : DeviceKeyInfo) =
        structValue (l.map fun e => (e.1, e.2.map .ok)) := by
    have hinfo : (keyInfo.map fun m : BTreeMap Int Value =>
        (.ok (entries m) : Except String Value)) = (keyInfo.map entries).map .ok := by
      rw [Option.map_map]
      rfl
    show structValue [("deviceKey", some (.ok deviceKey.toCbor)), ("keyAuthorizations", a.map toValue),
      ("keyInfo", keyInfo.map fun m => .ok (entries m))] = _
    rw [ha, hinfo]
    rfl
  refine ⟨_, (rereadsAs_struct (n := 0) (fun _ _ _ _ => trivial)
    (hwrite keyAuthorizations hwritten) ?_ (hwrite authorizations' hback)).any n⟩
  have hkey := Fields.required_present hnodup List.mem_cons_self deviceKey.ofValue_toCbor
  have hauth := Fields.optional_present hnodup
    (List.mem_cons_of_mem _ List.mem_cons_self) hread
  have hinfo := Fields.optional_present (α := BTreeMap Int Value) (a := keyInfo) hnodup
    (List.mem_cons_of_mem _ (List.mem_cons_of_mem _ List.mem_cons_self)) (by
      cases keyInfo with
      | none => exact .inl ⟨rfl, rfl⟩
      | some m =>
        refine .inr ⟨_, m, rfl, Value.noConfusion, rfl,
          ofValue_map (g := fun v : Value => v) fun e he => ⟨?_, rfl⟩⟩
        obtain ⟨hlo, hhi⟩ := h m rfl e.1
          (BTreeMap.mem_iff_getElem?.mpr ⟨e.2, BTreeMap.mem_toList.mp he⟩)
        exact ofValue_ofI128 hlo hhi)
  show (Fields.ofValue _ _ >>= _) = _
  rw [Fields.ofValue_present, ok_bind, hkey, ok_bind, hauth, ok_bind, hinfo, ok_bind]

/-- the digests of a namespace, as they are written -/
def DigestIds.toCbor (ids : DigestIds) : Value :=
  .map (ids.toList.map fun e => (Value.ofInt32 e.1.toInt32, .bytes e.2.bytes))

theorem DigestIds.ofValue_toCbor (ids : DigestIds) :
    (ofValue ids.toCbor : Except String DigestIds) = .ok ids :=
  ofValue_map (f := fun d : DigestId => Value.ofInt32 d.toInt32)
    (g := fun b : ByteStr => Value.bytes b.bytes) fun e _ => ⟨e.1.ofValue_ofInt32, rfl⟩

theorem DigestIds.toValue_eq (ids : DigestIds) : toValue ids = .ok ids.toCbor :=
  toValue_map (f := fun d : DigestId => Value.ofInt32 d.toInt32)
    (g := fun b : ByteStr => Value.bytes b.bytes) (fun _ => rfl) (fun _ => rfl) ids

section
variable [LawfulRfc3339]

/-- the dates can be written, and what is said of the device key -/
structure Mso.Storable (m : Mso) : Prop where
  validityInfo : m.validityInfo.InYears
  deviceKeyInfo : m.deviceKeyInfo.InI128

/-- **A security object reads back**, but for the fractions of its dates. -/
theorem rereadsAs_mso {n : ℕ} {m : Mso} (h : m.Storable) : ∃ v, RereadsAs AnyLayer n m v := by
  obtain ⟨info, hinfo, -, info', hinfo', hback⟩ := DeviceKeyInfo.rereadsAs (n := 0) h.deviceKeyInfo
  let digests : Value := .map (m.valueDigests.toList.map fun e => (.text e.1, e.2.toCbor))
  let l : List (String × Option Value) :=
    [("version", some (.text m.version)), ("digestAlgorithm", some (.text m.digestAlgorithm.name)),
     ("valueDigests", some digests), ("deviceKeyInfo", some info), ("docType", some (.text m.docType)),
     ("validityInfo", some (.map m.validityInfo.utcEntries))]
  have hnodup : (l.map Prod.fst).Nodup := by simp [l]
  have hdigests : toValue m.valueDigests = .ok digests :=
    toValue_textMap DigestIds.toValue_eq m.valueDigests
  have hdates := ValidityInfo.toValue_of_years h.validityInfo
  have hdates' := ValidityInfo.toValue_of_years (ValidityInfo.inYears_truncated h.validityInfo)
  rw [ValidityInfo.utcEntries_truncated] at hdates'
  have hwrite (i : DeviceKeyInfo) (hi : toValue i = .ok info) (d : ValidityInfo)
      (hd : toValue d = .ok (.map m.validityInfo.utcEntries)) :
      toValue { m with deviceKeyInfo := i, validityInfo := d } =
        structValue (l.map fun e => (e.1, e.2.map .ok)) := by
    show structValue [("version", _), ("digestAlgorithm", _),
      ("valueDigests", some (toValue m.valueDigests)), ("deviceKeyInfo", some (toValue i)),
      ("docType", _), ("validityInfo", some (toValue d))] = _
    rw [hdigests, hi, hd]
    rfl
  refine ⟨_, (rereadsAs_struct (n := 0) (fun _ _ _ _ => trivial)
    (hwrite m.deviceKeyInfo hinfo m.validityInfo hdates) ?_
    (hwrite info' hback m.validityInfo.truncated hdates')).any n⟩
  have hversion := Fields.required_present (α := String) (a := m.version) hnodup
    (by simp [l] : ("version", some (.text m.version)) ∈ l) rfl
  have halgorithm := Fields.required_present (α := DigestAlgorithm) (a := m.digestAlgorithm) hnodup
    (by simp [l] : ("digestAlgorithm", some (.text m.digestAlgorithm.name)) ∈ l) (by
      cases m.digestAlgorithm <;> rfl)
  have hvalueDigests := Fields.required_present (α := BTreeMap String DigestIds)
    (a := m.valueDigests) hnodup (by simp [l] : ("valueDigests", some digests) ∈ l)
    (ofValue_textMap DigestIds.ofValue_toCbor m.valueDigests)
  have hinfo := Fields.required_present hnodup
    (by simp [l] : ("deviceKeyInfo", some info) ∈ l) hinfo'
  have hdocType := Fields.required_present (α := String) (a := m.docType) hnodup
    (by simp [l] : ("docType", some (.text m.docType)) ∈ l) rfl
  have hvalidity := Fields.required_present hnodup
    (by simp [l] : ("validityInfo", some (.map m.validityInfo.utcEntries)) ∈ l)
    (ValidityInfo.ofValue_utcEntries h.validityInfo)
  show (Fields.ofValue _ _ >>= _) = _
  rw [Fields.ofValue_present, ok_bind, hversion, ok_bind, halgorithm, ok_bind, hvalueDigests,
    ok_bind, hinfo, ok_bind, hdocType, ok_bind, hvalidity, ok_bind]

end

/-! ## documents -/

namespace Device

theorem ofValue_uuid (u : Uuid) : (ofValue (.bytes u.1) : Except String Uuid) = .ok u := by
  show (if h : u.1.length = 16 then Except.ok (⟨u.1, h⟩ : Uuid) else _) = _
  rw [dif_pos u.2]

section
variable [Ciborium] [Coset] [LawfulRfc3339]

/-- what a device can store: the issuer's signature is written alike when it is read, the bytes of
every item are an item's, the security object reads back, and so does the data item as a whole -/
structure Document.Storable (d : Document) : Prop where
  issuerAuth : CosetRoundTrips d.issuerAuth
  items : ∀ ns element t, d.held ns element = some t →
    ∃ inner, fromSlice IssuerSignedItem t.innerBytes = .ok inner
  mso : d.mso.Storable
  ciborium : ∀ v, toValue d = .ok v → Ciborium.fromReader (Ciborium.intoWriter v) = .ok v

theorem Document.rereadsAs {n : ℕ} {d : Document} (h : d.Storable) :
    ∃ v, RereadsAs AnyLayer n d v := by
  obtain ⟨id, issuerAuth, mso, namespaces⟩ := d
  obtain ⟨auth, hauth, auth', hreadAuth, hbackAuth⟩ := h.issuerAuth
  obtain ⟨vm, hvm, -, mso', hreadMso, hbackMso⟩ := rereadsAs_mso (n := 0) h.mso
  obtain ⟨kvs, hkvs, -, namespaces', hreadNs, hbackNs⟩ := Rereads.nonEmptyMap (L := AnyLayer) (n := 1)
    (m := namespaces) fun ns items hns => by
      obtain ⟨kvs, hkvs⟩ := Rereads.nonEmptyMap (L := AnyLayer) (n := 1) (m := items)
        fun element t ht => by
          obtain ⟨inner, hinner⟩ := h.items ns element t (Option.bind_eq_some_iff.mpr ⟨items, hns, ht⟩)
          exact ⟨_, rereadsAs_tag24 0 hinner⟩
      exact ⟨_, hkvs.any 1⟩
  let l : List (String × Option Value) :=
    [("id", some (.bytes id.1)), ("issuer_auth", some auth), ("mso", some vm),
     ("namespaces", some (.map kvs))]
  have hnodup : (l.map Prod.fst).Nodup := by simp [l]
  have hwrite (a : MaybeTagged CoseSign1) (ha : toValue a = .ok auth) (m : Mso)
      (hm : toValue m = .ok vm) (nss : NonEmptyMap String (NonEmptyMap String IssuerSignedItemBytes))
      (hnss : toValue nss = .ok (.map kvs)) :
      toValue (⟨id, a, m, nss⟩ : Document) = structValue (l.map fun e => (e.1, e.2.map .ok)) := by
    show structValue [("id", _), ("issuer_auth", some (toValue a)), ("mso", some (toValue m)),
      ("namespaces", some (toValue nss))] = _
    rw [ha, hm, hnss]
    rfl
  refine ⟨_, (rereadsAs_struct (n := 0) (fun _ _ _ _ => trivial)
    (hwrite issuerAuth hauth mso hvm namespaces hkvs) ?_
    (hwrite auth' hbackAuth mso' hbackMso namespaces' hbackNs)).any n⟩
  have hfirst := Fields.required_present hnodup List.mem_cons_self (ofValue_uuid id)
  have hsecond := Fields.required_present hnodup
    (by simp [l] : ("issuer_auth", some auth) ∈ l) hreadAuth
  have hthird := Fields.required_present hnodup (by simp [l] : ("mso", some vm) ∈ l) hreadMso
  have hfourth := Fields.required_present hnodup
    (by simp [l] : ("namespaces", some (.map kvs)) ∈ l) hreadNs
  show (Fields.ofValue _ _ >>= _) = _
  rw [Fields.ofValue_present, ok_bind, hfirst, ok_bind, hsecond, ok_bind, hthird, ok_bind, hfourth,
    ok_bind]

end

/-! ## what the data item of a document says -/

/-- two documents that present alike: their security objects and signatures are written alike, and
so are the items that they hold -/
structure Document.Alike [Ciborium] [Coset] [Rfc3339] (d d' : Document) : Prop where
  id : d'.id = d.id
  issuerAuth : toValue d'.issuerAuth = toValue d.issuerAuth
  mso : toValue d'.mso = toValue d.mso
  deviceKey : d'.mso.deviceKeyInfo.deviceKey = d.mso.deviceKeyInfo.deviceKey
  held : ∀ ns element, (d'.held ns element).map (·.innerBytes) = (d.held ns element).map (·.innerBytes)

/-- two structs that are written alike, from their first field on -/
theorem structValue_cons_inj {name : String} {x x' : Except String Value}
    {fields fields' : List (String × Option (Except String Value))} {v : Value}
    (h : structValue ((name, some x) :: fields) = .ok v)
    (h' : structValue ((name, some x') :: fields') = .ok v) :
    (∃ u, x = .ok u ∧ x' = .ok u) ∧
      ∃ w, structValue fields = .ok w ∧ structValue fields' = .ok w := by
  obtain ⟨entries, hentries, rfl⟩ := map_eq_ok h
  obtain ⟨u, hu, hentries⟩ := bind_eq_ok hentries
  obtain ⟨vs, hvs, hentries⟩ := bind_eq_ok hentries
  cases hentries
  obtain ⟨entries', hentries', heq⟩ := map_eq_ok h'
  obtain ⟨u', hu', hentries'⟩ := bind_eq_ok hentries'
  obtain ⟨vs', hvs', hentries'⟩ := bind_eq_ok hentries'
  cases hentries'
  cases heq
  refine ⟨⟨_, hu, hu'⟩, .map vs, ?_, ?_⟩
  · unfold structValue
    rw [hvs]
    rfl
  · unfold structValue
    rw [hvs']
    rfl

/-- the items of a namespace, as they are written -/
def itemsValue (items : NonEmptyMap String IssuerSignedItemBytes) : Value :=
  .map (items.toMap.toList.map fun e => (.text e.1, e.2.toCbor))

theorem map_text_inj {V W X : Type} {f : V → X} {g : W → X} {l : List (String × V)}
    {l' : List (String × W)}
    (h : l.map (fun e => (Value.text e.1, f e.2)) = l'.map fun e => (Value.text e.1, g e.2)) :
    l.map (fun e => (e.1, f e.2)) = l'.map fun e => (e.1, g e.2) := by
  have hinj : Function.Injective fun p : String × X => (Value.text p.1, p.2) := by
    intro a b hab
    obtain ⟨hkey, hvalue⟩ := Prod.mk.inj hab
    exact Prod.ext (Value.text.inj hkey) hvalue
  apply hinj.list_map
  rw [List.map_map, List.map_map]
  exact h

theorem held_of_toValue {namespaces namespaces' :
      NonEmptyMap String (NonEmptyMap String IssuerSignedItemBytes)}
    (h : (toValue namespaces' : Except String Value) = toValue namespaces) (ns element : String) :
    ((namespaces'.toMap[ns]?).bind fun items => (items.toMap[element]?).map (·.innerBytes)) =
      (namespaces.toMap[ns]?).bind fun items => (items.toMap[element]?).map (·.innerBytes) := by
  have hitems (items : NonEmptyMap String IssuerSignedItemBytes) :
      (toValue items : Except String Value) = .ok (itemsValue items) :=
    toValue_textMap (fun _ => rfl) items.toMap
  have hvalue (m : NonEmptyMap String (NonEmptyMap String IssuerSignedItemBytes)) :
      toValue m = .ok (.map (m.toMap.toList.map fun e => (.text e.1, itemsValue e.2))) :=
    toValue_textMap hitems m.toMap
  rw [hvalue, hvalue] at h
  have hlookup := BTreeMap.toList_map_eq_iff.mp (map_text_inj (Value.map.inj (Except.ok.inj h))) ns
  have hbytes {items items' : NonEmptyMap String IssuerSignedItemBytes}
      (h : itemsValue items' = itemsValue items) :
      (items'.toMap[element]?).map (·.innerBytes) = (items.toMap[element]?).map (·.innerBytes) := by
    have hmap := BTreeMap.toList_map_eq_iff.mp (map_text_inj (Value.map.inj h)) element
    cases hnew : items'.toMap[element]? with
    | none =>
      rw [hnew] at hmap
      rw [Option.map_eq_none_iff.mp hmap.symm]
    | some t' =>
      rw [hnew] at hmap
      obtain ⟨t, ht, hcbor⟩ := Option.map_eq_some_iff.mp hmap.symm
      rw [ht]
      exact congrArg some (Value.bytes.inj (Value.tag.inj hcbor).2).symm
  cases hnew : namespaces'.toMap[ns]? with
  | none =>
    rw [hnew] at hlookup
    rw [Option.map_eq_none_iff.mp hlookup.symm]
  | some items' =>
    rw [hnew] at hlookup
    obtain ⟨items, hold, hsame⟩ := Option.map_eq_some_iff.mp hlookup.symm
    rw [hold]
    exact hbytes hsame.symm

section
variable [Ciborium] [Coset] [Rfc3339]

/-- the device key, from the data item of the security object -/
theorem mso_deviceKey {m m' : Mso} {v : Value} (h : toValue m = .ok v) (h' : toValue m' = .ok v) :
    m'.deviceKeyInfo.deviceKey = m.deviceKeyInfo.deviceKey := by
  obtain ⟨-, w, hrest, hrest'⟩ := structValue_cons_inj h h'
  obtain ⟨-, w, hrest, hrest'⟩ := structValue_cons_inj hrest hrest'
  obtain ⟨-, w, hrest, hrest'⟩ := structValue_cons_inj hrest hrest'
  obtain ⟨⟨info, hinfo, hinfo'⟩, -⟩ := structValue_cons_inj hrest hrest'
  obtain ⟨⟨key, hkey, hkey'⟩, -⟩ := structValue_cons_inj hinfo hinfo'
  have hread := m.deviceKeyInfo.deviceKey.ofValue_toCbor
  have hread' := m'.deviceKeyInfo.deviceKey.ofValue_toCbor
  rw [Except.ok.inj hkey] at hread
  rw [Except.ok.inj hkey', hread] at hread'
  exact (Except.ok.inj hread').symm

/-- **Documents that are written alike present alike.** -/
theorem Document.alike_of_toValue {d d' : Document} {v : Value} (h : toValue d = .ok v)
    (h' : toValue d' = .ok v) : d.Alike d' := by
  obtain ⟨⟨id, hid, hid'⟩, w, hrest, hrest'⟩ := structValue_cons_inj h h'
  obtain ⟨⟨auth, hauth, hauth'⟩, w, hrest, hrest'⟩ := structValue_cons_inj hrest hrest'
  obtain ⟨⟨mso, hmso, hmso'⟩, w, hrest, hrest'⟩ := structValue_cons_inj hrest hrest'
  obtain ⟨⟨ns, hns, hns'⟩, -⟩ := structValue_cons_inj hrest hrest'
  refine ⟨?_, hauth'.trans hauth.symm, hmso'.trans hmso.symm, mso_deviceKey hmso hmso', ?_⟩
  · exact Subtype.ext (Value.bytes.inj (Except.ok.inj (hid'.trans hid.symm)))
  · intro ns element
    have hheld := held_of_toValue (hns'.trans hns.symm) ns element
    rw [Document.held, Document.held, Option.map_bind, Option.map_bind]
    exact hheld

end

section
variable [Ciborium] [Coset] [LawfulRfc3339] [LawfulStandardBase64]

/-- **A document that is stored is read back**, as one that is stored as the same string and presents
alike. -/
theorem Document.stored_roundTrip {d : Document} (h : d.Storable) :
    ∃ s d', Stringify.stringify d = .ok s ∧ Stringify.parse Document s = .ok d' ∧
      Stringify.stringify d' = .ok s ∧ d.Alike d' := by
  obtain ⟨v, hv⟩ := Document.rereadsAs (n := 0) h
  obtain ⟨s, d', hs, hparse, hs', hback⟩ := Stringify.parse_stringify hv (h.ciborium v hv.written)
  exact ⟨s, d', hs, hparse, hs', Document.alike_of_toValue hv.written hback⟩

end

end Device

/-! ## a document that is stored -/

namespace Reference

/-- a character of the URL-safe alphabet, in the standard one -/
def standard (c : Char) : Char := if c = '-' then '+' else if c = '_' then '/' else c

theorem mem_encodeSextets {bytes : Bytes} {c : Char} (h : c ∈ encodeSextets bytes) :
    c ∈ alphabet := by
  have hsextet (i : ℕ) : sextet i ∈ alphabet := by
    rw [sextet, List.getD_eq_getElem?_getD]
    cases hc : alphabet[i]? with
    | none => decide
    | some c => exact List.mem_of_getElem? hc
  induction bytes using encodeSextets.induct with
  | case1 => cases h
  | case2 a =>
    simp only [encodeSextets, List.mem_cons, List.not_mem_nil, or_false] at h
    rcases h with rfl | rfl
    all_goals apply hsextet
  | case3 a b =>
    simp only [encodeSextets, List.mem_cons, List.not_mem_nil, or_false] at h
    rcases h with rfl | rfl | rfl
    all_goals apply hsextet
  | case4 a b c bytes ih =>
    simp only [encodeSextets, List.mem_cons] at h
    rcases h with rfl | rfl | rfl | rfl | h
    · apply hsextet
    · apply hsextet
    · apply hsextet
    · apply hsextet
    · exact ih h

theorem standard_mem {bytes : Bytes} {c : Char} (h : c ∈ (encodeSextets bytes).map standard) :
    c ≠ '=' ∧ c ≠ '-' ∧ c ≠ '_' := by
  have hall : (alphabet.all fun c => standard c ≠ '=' ∧ standard c ≠ '-' ∧ standard c ≠ '_') =
      true := by
    decide +kernel
  obtain ⟨c', hc', rfl⟩ := List.mem_map.mp h
  exact of_decide_eq_true (List.all_eq_true.mp hall c' (mem_encodeSextets hc'))

theorem urlSafe_standard (bytes : Bytes) :
    ((encodeSextets bytes).map standard).map urlSafe = encodeSextets bytes := by
  have hall : (alphabet.all fun c => urlSafe (standard c) = c) = true := by decide +kernel
  have hsame : (encodeSextets bytes).map (urlSafe ∘ standard) = (encodeSextets bytes).map id :=
    List.map_congr_left fun c hc =>
      of_decide_eq_true (List.all_eq_true.mp hall c (mem_encodeSextets hc))
  rw [List.map_map, hsame, List.map_id]

/-- with padding -/
scoped instance lawfulStandardBase64 : LawfulStandardBase64 where
  toStandardBase64 := standardBase64
  encode bytes := String.ofList
    ((encodeSextets bytes).map standard ++ List.replicate ((3 - bytes.length % 3) % 3) '=')
  decode_encode bytes := by
    let chars := (encodeSextets bytes).map standard
    let padding := (3 - bytes.length % 3) % 3
    have hunpadded : ((chars ++ List.replicate padding '=').reverse.dropWhile
        fun c => c = '=').reverse = chars := by
      have hstop : chars.reverse.dropWhile (fun c => c = '=') = chars.reverse := by
        cases hchars : chars.reverse with
        | nil => rfl
        | cons c rest =>
          have hc : c ∈ chars := List.mem_reverse.mp (hchars ▸ List.mem_cons_self)
          exact List.dropWhile_cons_of_neg (by simp [(standard_mem hc).1])
      rw [List.reverse_append, List.reverse_replicate, List.dropWhile_append_of_pos (by simp), hstop,
        List.reverse_reverse]
    have hstandard : ¬ ('-' ∈ chars ∨ '_' ∈ chars) := by
      rintro (h | h)
      · exact (standard_mem h).2.1 rfl
      · exact (standard_mem h).2.2 rfl
    show (let chars := ((String.ofList _).toList.reverse.dropWhile fun c => c = '=').reverse
      if '-' ∈ chars ∨ '_' ∈ chars then _ else _) = _
    rw [String.toList_ofList, hunpadded]
    show (if '-' ∈ chars ∨ '_' ∈ chars then _ else _) = _
    rw [if_neg hstandard, urlSafe_standard, decodeSextets_encodeSextets]

end Reference

namespace Device

section
open Reference.Time

local instance storedCiborium : LawfulCiborium := Reference.lawfulCiborium
local instance storedCoset : Coset := Reference.coset
local instance storedBase64 : LawfulStandardBase64 := Reference.lawfulStandardBase64

namespace Sample

/-- a document whose item is one -/
def readableDocument : Document where
  id := ⟨List.replicate 16 1, length_id⟩
  issuerAuth := ⟨false, ⟨⟨none, Header.empty⟩, Header.empty, none, []⟩⟩
  mso := mso coseKey
  namespaces := NonEmptyMap.new "org.iso.18013.5.1" (NonEmptyMap.new "family_name" readableItem)

theorem readableDocument_storable : readableDocument.Storable where
  issuerAuth := cosetRoundTrips
  items ns element t ht := by
    obtain ⟨items, hns, helement⟩ := Option.bind_eq_some_iff.mp ht
    rw [eq_of_getElem?_new hns] at helement
    rw [eq_of_getElem?_new helement]
    have hread : (fromSlice IssuerSignedItem readableItem.innerBytes).toOption.isSome := by
      decide +kernel
    cases hinner : fromSlice IssuerSignedItem readableItem.innerBytes with
    | error e =>
      rw [hinner] at hread
      cases hread
    | ok inner => exact ⟨inner, rfl⟩
  mso := by
    have hyears : ∀ date ∈ (mso coseKey).validityInfo.dates,
        FourDigitYear date.2.unixSeconds := by
      decide +kernel
    exact ⟨hyears, fun m hm => by cases hm⟩
  ciborium v _ := Reference.fromReader_intoWriter v

end Sample

theorem stored_roundTrip_sample :
    ∃ s d', Stringify.stringify Sample.readableDocument = .ok s ∧
      Stringify.parse Document s = .ok d' ∧ Stringify.stringify d' = .ok s ∧
        Sample.readableDocument.Alike d' :=
  Document.stored_roundTrip Sample.readableDocument_storable

end

end Device

end Isomdl
