import Isomdl.Issuance.Complete
import Isomdl.Presentation.Restored

/-!
# Prepared responses that are stored (`presentation/device.rs`)

A prepared response waits for signatures that are made elsewhere, and its codec is the derived one.
It is not read back as it was: an item gets its value from its bytes, and a header its bytes.  But it
asks for the same signatures, and it is finished to the same bytes.

* `rereads_preparedDeviceResponse`             a prepared response reads back;
* `PreparedDeviceResponse.alike_of_toValue`    those that are written alike are signed alike;
* `PreparedDeviceResponse.suspended_agrees`    wherever a response is stored and read back.
-/

set_option linter.unusedSectionVars false

namespace Isomdl

open Cbor

/-! ## the codec -/

/-- an `Option` field that is always written -/
def nullable {α : Type} [Serialize α] : Option α → Except String Value
  | none => .ok .null
  | some a => toValue a

/-- a `Vec<u8>` without `serde_bytes`, which is written as a sequence; one is read from a byte string
too -/
def byteSequence (bytes : Bytes) : Value := .array (bytes.map fun b => Value.ofUInt64 b.toUInt64)

section
variable [Ciborium] [Coset]

instance : Serialize PreparedCoseMac0 where
  toValue p := structValue
    [("cose_mac0", some (toValue p.coseMac0)), ("tag_payload", some (.ok (byteSequence p.tagPayload)))]

instance : Deserialize PreparedCoseMac0 where
  ofValue v := do
    let fields ← Fields.ofValue "PreparedCoseMac0" v
    let coseMac0 ← fields.required "cose_mac0" (MaybeTagged CoseMac0)
    let tagPayload ← fields.required "tag_payload" SerdeBytes
    .ok { coseMac0, tagPayload := tagPayload.bytes }

namespace Device

/-- an enum with its variant's name as the one key -/
instance : Serialize PreparedCose where
  toValue
    | .Sign1 inner => structValue [("Sign1", some (toValue inner))]
    | .Mac0 inner => structValue [("Mac0", some (toValue inner))]

instance : Deserialize PreparedCose where
  ofValue v :=
    match v.untagged with
    | .map [(k, v)] =>
      if isField "Sign1" k then .Sign1 <$> ofValue v
      else if isField "Mac0" k then .Mac0 <$> ofValue v
      else .error "unknown variant, expected `Sign1` or `Mac0`"
    | _ => .error "invalid type: expected enum"

instance : Serialize PreparedDocument where
  toValue d := structValue
    [("id", some (toValue d.id)), ("doc_type", some (toValue d.docType)),
     ("issuer_signed", some (toValue d.issuerSigned)),
     ("device_namespaces", some (toValue d.deviceNamespaces)),
     ("prepared_cose", some (toValue d.preparedCose)), ("errors", some (nullable d.errors))]

instance : Deserialize PreparedDocument where
  ofValue v := do
    let fields ← Fields.ofValue "PreparedDocument" v
    let id ← fields.required "id" Uuid
    let docType ← fields.required "doc_type" String
    let issuerSigned ← fields.required "issuer_signed" IssuerSigned
    let deviceNamespaces ← fields.required "device_namespaces" DeviceNamespacesBytes
    let preparedCose ← fields.required "prepared_cose" PreparedCose
    let errors ← fields.optional "errors" NamespaceErrors
    .ok { id, docType, issuerSigned, deviceNamespaces, preparedCose, errors }

instance : Serialize PreparedDeviceResponse where
  toValue p := structValue
    [("prepared_documents", some (toValue p.preparedDocuments)),
     ("signed_documents", some (toValue p.signedDocuments)),
     ("document_errors", some (nullable p.documentErrors)), ("status", some (toValue p.status))]

instance : Deserialize PreparedDeviceResponse where
  ofValue v := do
    let fields ← Fields.ofValue "PreparedDeviceResponse" v
    let preparedDocuments ← fields.required "prepared_documents" (List PreparedDocument)
    let signedDocuments ← fields.required "signed_documents" (List DeviceResponse.Document)
    let documentErrors ← fields.optional "document_errors" DocumentErrors
    let status ← fields.required "status" DeviceResponse.Status
    .ok { preparedDocuments, signedDocuments, documentErrors, status }

end Device

end

/-! ## reading back -/

section
variable {L : ℕ → Value → Prop} [Layered L]

/-- a value that is written inside another -/
theorem rereads_inside {m n : ℕ} {T U : Type} [Serialize T] [Deserialize T] [Serialize U]
    [Deserialize U] (make : T → U) (around : Value → Value) (hlayer : ∀ v, L m v → L n (around v))
    (hwrite : ∀ c v, toValue c = .ok v → toValue (make c) = .ok (around v))
    (hread : ∀ v c, ofValue v = .ok c → ofValue (around v) = .ok (make c)) {c : T}
    (h : Rereads L m c) : Rereads L n (make c) := by
  obtain ⟨v, hv, hlayer', c', hc', hback⟩ := h
  exact ⟨around v, hwrite c v hv, hlayer v hlayer', make c', hread v c' hc', hwrite c' v hback⟩

theorem layer_byteSequence (n : ℕ) (bytes : Bytes) : L (n + 1) (byteSequence bytes) := by
  apply Layered.array
  intro v hv
  obtain ⟨b, -, rfl⟩ := List.mem_map.mp hv
  exact Layered.of_plain (Value.plain_ofUInt64 n _)

theorem ofValue_byteSequence (bytes : Bytes) :
    (ofValue (byteSequence bytes) : Except String SerdeBytes) = .ok ⟨bytes⟩ := by
  have hbyte (b : UInt8) : (fun i : Int => UInt8.ofNat i.toNat) <$>
      boundedInt 0 255 (Value.ofUInt64 b.toUInt64) = .ok b := by
    have hbound : boundedInt 0 255 (Value.ofUInt64 b.toUInt64) = .ok (b.toNat : Int) := by
      have hlt := b.toNat_lt
      exact if_pos (by omega : 0 ≤ (b.toNat : Int) ∧ (b.toNat : Int) ≤ 255)
    rw [hbound]
    show Except.ok (UInt8.ofNat b.toNat) = _
    rw [UInt8.ofNat_toNat]
  have hbytes := mapM_map_ok (g := fun b : UInt8 => Value.ofUInt64 b.toUInt64)
    (f := fun v => (fun i : Int => UInt8.ofNat i.toNat) <$> boundedInt 0 255 v) (l := bytes)
    fun b _ => hbyte b
  show SerdeBytes.mk <$> (bytes.map _).mapM _ = _
  rw [hbytes]
  rfl

theorem exists_nullable {α : Type} [Serialize α] [Deserialize α] {n : ℕ} {o : Option α}
    (h : ∀ a, o = some a → ∃ v, RereadsAs L n a v ∧ v ≠ .null) :
    ∃ v o', nullable o = .ok v ∧ L n v ∧ nullable o' = .ok v ∧
      ∀ (fields : Fields) (name : String), fields.find? name = .ok (some v) →
        fields.optional name α = .ok o' := by
  cases o with
  | none =>
    refine ⟨.null, none, rfl, Layered.of_plain (Value.plain_null n), rfl, ?_⟩
    intro fields name hfind
    unfold Fields.optional
    rw [hfind]
    rfl
  | some a =>
    obtain ⟨v, ⟨hv, hlayer, a', ha', hback⟩, hnull⟩ := h a rfl
    refine ⟨v, some a', hv, hlayer, hback, ?_⟩
    intro fields name hfind
    unfold Fields.optional
    rw [hfind, ok_bind]
    split
    · next heq => cases heq
    · next heq =>
      cases heq
      exact absurd rfl hnull
    · next heq =>
      cases heq
      rw [ha']
      rfl

section
variable [Ciborium] [Coset]

theorem rereads_preparedSign1 {n : ℕ} {c : MaybeTagged CoseSign1} (h : Rereads L n c)
    (payload : Bytes) : Rereads L (n + 1) (⟨c, payload⟩ : PreparedCoseSign1) := by
  let l (v : Value) : List (String × Option Value) :=
    [("cose_sign1", some v), ("signature_payload", some (.bytes payload))]
  have hnodup (v : Value) : ((l v).map Prod.fst).Nodup := by simp [l]
  refine rereads_inside (fun c => (⟨c, payload⟩ : PreparedCoseSign1))
    (fun v => .map ((BTreeMap.present (l v)).map fun e => (.text e.1, e.2))) ?_ ?_ ?_ h
  · intro v hv
    exact layer_present (List.forall_mem_cons.mpr ⟨layer_some hv,
      List.forall_mem_singleton.mpr (layer_some (Layered.of_plain (Value.plain_bytes n _)))⟩)
  · intro c v hv
    show structValue [("cose_sign1", some (toValue c)), ("signature_payload", some (.ok _))] = _
    rw [hv]
    exact structValue_present (l v)
  · intro v c hc
    have hfirst := Fields.required_present (hnodup v) List.mem_cons_self hc
    have hsecond := Fields.required_present (α := SerdeBytes) (hnodup v)
      (List.mem_cons_of_mem _ List.mem_cons_self) rfl
    show (Fields.ofValue _ _ >>= _) = _
    rw [Fields.ofValue_present, ok_bind, hfirst, ok_bind, hsecond, ok_bind]

theorem rereads_preparedMac0 {n : ℕ} {c : MaybeTagged CoseMac0} (h : Rereads L (n + 1) c)
    (payload : Bytes) : Rereads L (n + 2) (⟨c, payload⟩ : PreparedCoseMac0) := by
  let l (v : Value) : List (String × Option Value) :=
    [("cose_mac0", some v), ("tag_payload", some (byteSequence payload))]
  have hnodup (v : Value) : ((l v).map Prod.fst).Nodup := by simp [l]
  refine rereads_inside (fun c => (⟨c, payload⟩ : PreparedCoseMac0))
    (fun v => .map ((BTreeMap.present (l v)).map fun e => (.text e.1, e.2))) ?_ ?_ ?_ h
  · intro v hv
    exact layer_present (List.forall_mem_cons.mpr ⟨layer_some hv,
      List.forall_mem_singleton.mpr (layer_some (layer_byteSequence n payload))⟩)
  · intro c v hv
    show structValue [("cose_mac0", some (toValue c)), ("tag_payload", some (.ok _))] = _
    rw [hv]
    exact structValue_present (l v)
  · intro v c hc
    have hfirst := Fields.required_present (hnodup v) List.mem_cons_self hc
    have hsecond := Fields.required_present (hnodup v)
      (List.mem_cons_of_mem _ List.mem_cons_self) (ofValue_byteSequence payload)
    show (Fields.ofValue _ _ >>= _) = _
    rw [Fields.ofValue_present, ok_bind, hfirst, ok_bind, hsecond, ok_bind]

namespace Device

/-- a prepared document reads back when its parts do -/
theorem rereads_preparedDocument {n : ℕ} {d : PreparedDocument} {namespaces : DeviceNamespaces}
    (hissuer : Rereads L (n + 2) d.issuerSigned)
    (hnamespaces : fromSlice DeviceNamespaces d.deviceNamespaces.innerBytes = .ok namespaces)
    (hcose : Rereads L (n + 2) d.preparedCose)
    (herrors : ∀ m, d.errors = some m → ∀ (k : String) (e : NonEmptyMap String DocumentErrorCode),
      m.toMap[k]? = some e → Rereads L (n + 1) e) : Rereads L (n + 3) d := by
  obtain ⟨id, docType, issuerSigned, deviceNamespaces, preparedCose, errors⟩ := d
  obtain ⟨vi, hvi, hlayeri, issuer', hissuer', hbacki⟩ := hissuer
  obtain ⟨vc, hvc, hlayerc, cose', hcose', hbackc⟩ := hcose
  obtain ⟨ve, errors', hve, hlayere, hbacke, hread⟩ := exists_nullable (n := n + 2)
    (o := errors) fun m hm => by
      obtain ⟨kvs, hkvs⟩ := Rereads.nonEmptyMap (herrors m hm)
      exact ⟨_, hkvs, fun h => by cases h⟩
  let namespaces' : DeviceNamespacesBytes := ⟨namespaces, deviceNamespaces.innerBytes⟩
  have hns : (ofValue deviceNamespaces.toCbor : Except String DeviceNamespacesBytes) =
      .ok namespaces' := Tag24.ofValue_toCbor (t := namespaces') hnamespaces
  let l : List (String × Option Value) :=
    [("id", some (.bytes id.1)), ("doc_type", some (.text docType)), ("issuer_signed", some vi),
     ("device_namespaces", some deviceNamespaces.toCbor), ("prepared_cose", some vc),
     ("errors", some ve)]
  have hnodup : (l.map Prod.fst).Nodup := by simp [l]
  have hwrite (i : IssuerSigned) (t : DeviceNamespacesBytes) (c : PreparedCose)
      (e : Option NamespaceErrors) (hi : toValue i = .ok vi) (ht : t.toCbor = deviceNamespaces.toCbor)
      (hc : toValue c = .ok vc) (he : nullable e = .ok ve) :
      toValue (⟨id, docType, i, t, c, e⟩ : PreparedDocument) =
        structValue (l.map fun e => (e.1, e.2.map .ok)) := by
    show structValue [("id", _), ("doc_type", _), ("issuer_signed", some (toValue i)),
      ("device_namespaces", some (.ok t.toCbor)), ("prepared_cose", some (toValue c)),
      ("errors", some (nullable e))] = _
    rw [hi, ht, hc, he]
    rfl
  refine ⟨_, rereadsAs_struct ?_ (hwrite _ _ _ _ hvi rfl hvc hve) ?_
    (hwrite issuer' namespaces' cose' errors' hbacki rfl hbackc hbacke)⟩
  · exact List.forall_mem_cons.mpr ⟨layer_some (Layered.of_plain (Value.plain_bytes _ _)),
      List.forall_mem_cons.mpr ⟨layer_some (Layered.of_plain (Value.plain_text _ _)),
        List.forall_mem_cons.mpr ⟨layer_some hlayeri, List.forall_mem_cons.mpr
          ⟨layer_some (Layered.of_plain (plain_tag24 (n + 1) deviceNamespaces)),
            List.forall_mem_cons.mpr ⟨layer_some hlayerc,
              List.forall_mem_singleton.mpr (layer_some hlayere)⟩⟩⟩⟩⟩
  · have hid := Fields.required_present hnodup List.mem_cons_self (ofValue_uuid id)
    have hdoc := Fields.required_present (α := String) (a := docType) hnodup
      (by simp [l] : ("doc_type", some (.text docType)) ∈ l) rfl
    have hi := Fields.required_present hnodup (by simp [l] : ("issuer_signed", some vi) ∈ l) hissuer'
    have ht := Fields.required_present hnodup
      (by simp [l] : ("device_namespaces", some deviceNamespaces.toCbor) ∈ l) hns
    have hc := Fields.required_present hnodup (by simp [l] : ("prepared_cose", some vc) ∈ l) hcose'
    have he := hread _ "errors" (Fields.find?_present hnodup
      (by simp [l] : ("errors", some ve) ∈ l))
    show (Fields.ofValue _ _ >>= _) = _
    rw [Fields.ofValue_present, ok_bind, hid, ok_bind, hdoc, ok_bind, hi, ok_bind, ht, ok_bind, hc,
      ok_bind, he, ok_bind]

/-- **A prepared response reads back** when its documents and its errors do. -/
theorem rereads_preparedDeviceResponse {n : ℕ} {p : PreparedDeviceResponse}
    (hprepared : ∀ d ∈ p.preparedDocuments, Rereads L (n + 1) d)
    (hsigned : ∀ d ∈ p.signedDocuments, Rereads L (n + 1) d)
    (herrors : ∀ l, p.documentErrors = some l → ∀ e ∈ l.toList, Rereads L (n + 1) e) :
    Rereads L (n + 3) p := by
  obtain ⟨preparedDocuments, signedDocuments, documentErrors, status⟩ := p
  obtain ⟨ps, ⟨hps, hlayerp, prepared', hprepared', hbackp⟩, -⟩ := Rereads.list hprepared
  obtain ⟨ss, ⟨hss, hlayers, signed', hsigned', hbacks⟩, -⟩ := Rereads.list hsigned
  obtain ⟨ve, errors', hve, hlayere, hbacke, hread⟩ := exists_nullable (n := n + 2)
    (o := documentErrors) fun l hl => by
      obtain ⟨vs, hvs⟩ := Rereads.nonEmptyVec (herrors l hl)
      exact ⟨_, hvs, fun h => by cases h⟩
  have hstatus := rereadsAs_status (L := L) (n + 2) status
  let l : List (String × Option Value) :=
    [("prepared_documents", some (.array ps)), ("signed_documents", some (.array ss)),
     ("document_errors", some ve), ("status", some (Value.ofUInt64 status.toUInt64))]
  have hnodup : (l.map Prod.fst).Nodup := by simp [l]
  have hwrite (prepared : List PreparedDocument) (signed : List DeviceResponse.Document)
      (errors : Option DocumentErrors) (hp : toValue prepared = .ok (.array ps))
      (hs : toValue signed = .ok (.array ss)) (he : nullable errors = .ok ve) :
      toValue (⟨prepared, signed, errors, status⟩ : PreparedDeviceResponse) =
        structValue (l.map fun e => (e.1, e.2.map .ok)) := by
    show structValue [("prepared_documents", some (toValue prepared)),
      ("signed_documents", some (toValue signed)), ("document_errors", some (nullable errors)),
      ("status", _)] = _
    rw [hp, hs, he]
    rfl
  refine ⟨_, rereadsAs_struct ?_ (hwrite _ _ _ hps hss hve) ?_
    (hwrite prepared' signed' errors' hbackp hbacks hbacke)⟩
  · exact List.forall_mem_cons.mpr ⟨layer_some hlayerp, List.forall_mem_cons.mpr
      ⟨layer_some hlayers, List.forall_mem_cons.mpr ⟨layer_some hlayere,
        List.forall_mem_singleton.mpr (layer_some hstatus.layer)⟩⟩⟩
  · have hp := Fields.required_present hnodup List.mem_cons_self hprepared'
    have hs := Fields.required_present hnodup
      (by simp [l] : ("signed_documents", some (.array ss)) ∈ l) hsigned'
    have he := hread _ "document_errors" (Fields.find?_present hnodup
      (by simp [l] : ("document_errors", some ve) ∈ l))
    have hst := Fields.required_present (α := DeviceResponse.Status) (a := status) hnodup
      (by simp [l] : ("status", some (Value.ofUInt64 status.toUInt64)) ∈ l)
      (by cases status <;> rfl)
    show (Fields.ofValue _ _ >>= _) = _
    rw [Fields.ofValue_present, ok_bind, hp, ok_bind, hs, ok_bind, he, ok_bind, hst, ok_bind]

end Device

end

end

/-! ## what the data item of a prepared response says -/

section
variable [Ciborium] [Coset] [CosetHeader]

/-- two structures that are written alike, with another signature or tag -/
theorem structureValue_authenticator {p p' : ProtectedHeader} {unprotected unprotected' : Header}
    {payload payload' : Option Bytes} {a a' : Bytes} {v : Value}
    (h : structureValue p unprotected payload a = .ok v)
    (h' : structureValue p' unprotected' payload' a' = .ok v) (b : Bytes) :
    ∃ w, structureValue p unprotected payload b = .ok w ∧
      structureValue p' unprotected' payload' b = .ok w := by
  obtain ⟨bstr, hbstr, h⟩ := bind_eq_ok h
  obtain ⟨u, hu, h⟩ := bind_eq_ok h
  obtain ⟨bstr', hbstr', h'⟩ := bind_eq_ok h'
  obtain ⟨u', hu', h'⟩ := bind_eq_ok h'
  cases h
  have hfields : [.bytes bstr', u', payloadValue payload', .bytes a'] =
      [.bytes bstr, u, payloadValue payload, .bytes a] := Value.array.inj (Except.ok.inj h')
  simp only [List.cons.injEq, Value.bytes.injEq, and_true] at hfields
  obtain ⟨rfl, rfl, hpayload, -⟩ := hfields
  refine ⟨.array [.bytes bstr', u', payloadValue payload, .bytes b], ?_, ?_⟩
  · unfold structureValue
    rw [hbstr, ok_bind, hu]
    rfl
  · unfold structureValue
    rw [hbstr', ok_bind, hu', ← hpayload]
    rfl

/-- a tag around a structure, from what is written -/
theorem toCbor_inj {T : Type} {TAG : UInt64} {toCborValue : T → Except String Value}
    (harray : ∀ c v, toCborValue c = .ok v → ∃ vs, v = .array vs) {c c' : MaybeTagged T} {v : Value}
    (h : c.toCbor TAG toCborValue = .ok v) (h' : c'.toCbor TAG toCborValue = .ok v) :
    c'.tagged = c.tagged ∧ ∃ u, toCborValue c.inner = .ok u ∧ toCborValue c'.inner = .ok u := by
  obtain ⟨tagged, inner⟩ := c
  obtain ⟨tagged', inner'⟩ := c'
  obtain ⟨u, hu, hv⟩ := map_eq_ok h
  obtain ⟨u', hu', hv'⟩ := map_eq_ok h'
  obtain ⟨vs, rfl⟩ := harray inner u hu
  obtain ⟨vs', rfl⟩ := harray inner' u' hu'
  subst hv
  cases tagged <;> cases tagged' <;> cases hv' <;> exact ⟨rfl, _, hu, hu'⟩

variable [FaithfulCiborium] [LawfulCoset]

/-- two structures that are written alike, when they are signed -/
theorem toValue_finalize_sign1 {p p' : PreparedCoseSign1} {v : Value}
    (h : toValue p.coseSign1 = .ok v) (h' : toValue p'.coseSign1 = .ok v) (signature : Bytes) :
    (toValue (p'.finalize signature) : Except String Value) = toValue (p.finalize signature) := by
  have harray (c : CoseSign1) (v : Value) (hv : Coset.sign1ToCborValue c = .ok v) :
      ∃ vs, v = .array vs := structureValue_array (LawfulCoset.sign1ToCborValue_ok.mp hv)
  obtain ⟨htagged, u, hu, hu'⟩ := toCbor_inj harray h h'
  obtain ⟨w, hw, hw'⟩ := structureValue_authenticator (LawfulCoset.sign1ToCborValue_ok.mp hu)
    (LawfulCoset.sign1ToCborValue_ok.mp hu') signature
  have hsigned : Coset.sign1ToCborValue (p.finalize signature).inner = .ok w :=
    LawfulCoset.sign1ToCborValue_ok.mpr hw
  have hsigned' : Coset.sign1ToCborValue (p'.finalize signature).inner = .ok w :=
    LawfulCoset.sign1ToCborValue_ok.mpr hw'
  show (fun v => if p'.coseSign1.tagged then .tag 18 v else v) <$>
      Coset.sign1ToCborValue (p'.finalize signature).inner =
    (fun v => if p.coseSign1.tagged then .tag 18 v else v) <$>
      Coset.sign1ToCborValue (p.finalize signature).inner
  rw [htagged, hsigned, hsigned']

theorem toValue_finalize_mac0 {p p' : PreparedCoseMac0} {v : Value}
    (h : toValue p.coseMac0 = .ok v) (h' : toValue p'.coseMac0 = .ok v) (tag : Bytes) :
    (toValue (p'.finalize tag) : Except String Value) = toValue (p.finalize tag) := by
  have harray (c : CoseMac0) (v : Value) (hv : Coset.mac0ToCborValue c = .ok v) :
      ∃ vs, v = .array vs := structureValue_array (LawfulCoset.mac0ToCborValue_ok.mp hv)
  obtain ⟨htagged, u, hu, hu'⟩ := toCbor_inj harray h h'
  obtain ⟨w, hw, hw'⟩ := structureValue_authenticator (LawfulCoset.mac0ToCborValue_ok.mp hu)
    (LawfulCoset.mac0ToCborValue_ok.mp hu') tag
  have htag : Coset.mac0ToCborValue (p.finalize tag).inner = .ok w :=
    LawfulCoset.mac0ToCborValue_ok.mpr hw
  have htag' : Coset.mac0ToCborValue (p'.finalize tag).inner = .ok w :=
    LawfulCoset.mac0ToCborValue_ok.mpr hw'
  show (fun v => if p'.coseMac0.tagged then .tag 17 v else v) <$>
      Coset.mac0ToCborValue (p'.finalize tag).inner =
    (fun v => if p.coseMac0.tagged then .tag 17 v else v) <$>
      Coset.mac0ToCborValue (p.finalize tag).inner
  rw [htagged, htag, htag']

theorem byteSequence_inj {bytes bytes' : Bytes} (h : byteSequence bytes' = byteSequence bytes) :
    bytes' = bytes := by
  have hread := ofValue_byteSequence bytes'
  rw [h, ofValue_byteSequence] at hread
  exact congrArg SerdeBytes.bytes (Except.ok.inj hread).symm

/-- an optional field, from what is written where no value is `null` -/
theorem nullable_inj {α : Type} [Serialize α] (hnull : ∀ a : α, toValue a ≠ .ok .null)
    {o o' : Option α} (h : nullable o' = nullable o) :
    (o'.map toValue : Option (Except String Value)) = o.map toValue := by
  cases o with
  | none =>
    cases o' with
    | none => rfl
    | some a' => exact absurd h (hnull a')
  | some a =>
    cases o' with
    | none => exact absurd h.symm (hnull a)
    | some a' => exact congrArg some h

namespace Device

/-- `PreparedDocument::finalize` on the structure of a document -/
def PreparedCose.finalize (c : PreparedCose) (signature : Bytes) : DeviceAuth :=
  match c with
  | .Sign1 inner => .deviceSignature (inner.finalize signature)
  | .Mac0 inner => .deviceMac (inner.finalize signature)

/-- **What is asked for, and what is made of the answer**, from what is written. -/
theorem PreparedCose.alike_of_toValue {c c' : PreparedCose} {v : Value} (h : toValue c = .ok v)
    (h' : toValue c' = .ok v) :
    c'.signaturePayload = c.signaturePayload ∧
      ∀ signature, (toValue (c'.finalize signature) : Except String Value) =
        toValue (c.finalize signature) := by
  have hentry {name : String} {x : Except String Value} {v : Value}
      (h : structValue [(name, some x)] = .ok v) : ∃ u, x = .ok u ∧ v = .map [(.text name, u)] := by
    obtain ⟨entries, hentries, rfl⟩ := map_eq_ok h
    obtain ⟨u, hu, hentries⟩ := bind_eq_ok hentries
    cases hentries
    exact ⟨u, hu, rfl⟩
  cases c with
  | Sign1 p =>
    obtain ⟨u, hu, rfl⟩ := hentry h
    cases c' with
    | Sign1 p' =>
      obtain ⟨u', hu', heq⟩ := hentry h'
      cases heq
      obtain ⟨⟨w, hw, hw'⟩, v, hrest, hrest'⟩ := structValue_cons_inj hu hu'
      obtain ⟨⟨payload, hpayload, hpayload'⟩, -⟩ := structValue_cons_inj hrest hrest'
      refine ⟨Value.bytes.inj (Except.ok.inj (hpayload'.trans hpayload.symm)), fun signature => ?_⟩
      show structValue [("deviceSignature", some (toValue (p'.finalize signature)))] =
        structValue [("deviceSignature", some (toValue (p.finalize signature)))]
      rw [toValue_finalize_sign1 hw hw']
    | Mac0 p' =>
      obtain ⟨u', -, heq⟩ := hentry h'
      simp at heq
  | Mac0 p =>
    obtain ⟨u, hu, rfl⟩ := hentry h
    cases c' with
    | Sign1 p' =>
      obtain ⟨u', -, heq⟩ := hentry h'
      simp at heq
    | Mac0 p' =>
      obtain ⟨u', hu', heq⟩ := hentry h'
      cases heq
      obtain ⟨⟨w, hw, hw'⟩, v, hrest, hrest'⟩ := structValue_cons_inj hu hu'
      obtain ⟨⟨payload, hpayload, hpayload'⟩, -⟩ := structValue_cons_inj hrest hrest'
      refine ⟨byteSequence_inj (Except.ok.inj (hpayload'.trans hpayload.symm)), fun tag => ?_⟩
      show structValue [("deviceMac", some (toValue (p'.finalize tag)))] =
        structValue [("deviceMac", some (toValue (p.finalize tag)))]
      rw [toValue_finalize_mac0 hw hw']

/-- **Prepared documents that are written alike are alike.** -/
theorem PreparedDocument.alike_of_toValue {d d' : PreparedDocument} {v : Value}
    (h : toValue d = .ok v) (h' : toValue d' = .ok v) : d.Alike d' := by
  obtain ⟨⟨id, hid, hid'⟩, w, hrest, hrest'⟩ := structValue_cons_inj h h'
  obtain ⟨⟨doc, hdoc, hdoc'⟩, w, hrest, hrest'⟩ := structValue_cons_inj hrest hrest'
  obtain ⟨⟨issuer, hissuer, hissuer'⟩, w, hrest, hrest'⟩ := structValue_cons_inj hrest hrest'
  obtain ⟨⟨ns, hns, hns'⟩, w, hrest, hrest'⟩ := structValue_cons_inj hrest hrest'
  obtain ⟨⟨cose, hcose, hcose'⟩, w, hrest, hrest'⟩ := structValue_cons_inj hrest hrest'
  obtain ⟨⟨errors, herrors, herrors'⟩, -⟩ := structValue_cons_inj hrest hrest'
  obtain ⟨hpayload, hauth⟩ := PreparedCose.alike_of_toValue hcose hcose'
  have hdocType : d'.docType = d.docType :=
    Value.text.inj (Except.ok.inj (hdoc'.trans hdoc.symm))
  have hmap : (d'.errors.map toValue : Option (Except String Value)) = d.errors.map toValue :=
    nullable_inj (fun m hm => by
      obtain ⟨entries, -, hentries⟩ := map_eq_ok hm
      cases hentries) (herrors'.trans herrors.symm)
  refine ⟨Subtype.ext (Value.bytes.inj (Except.ok.inj (hid'.trans hid.symm))), hpayload, ?_⟩
  intro signature
  have hdeviceSigned : (toValue (d'.finalize signature).deviceSigned : Except String Value) =
      toValue (d.finalize signature).deviceSigned := by
    show structValue [("nameSpaces", some (toValue d'.deviceNamespaces)),
        ("deviceAuth", some (toValue (d'.preparedCose.finalize signature)))] =
      structValue [("nameSpaces", some (toValue d.deviceNamespaces)),
        ("deviceAuth", some (toValue (d.preparedCose.finalize signature)))]
    rw [hns', hns, hauth]
  show structValue [("docType", some (toValue d'.docType)),
      ("issuerSigned", some (toValue d'.issuerSigned)),
      ("deviceSigned", some (toValue (d'.finalize signature).deviceSigned)),
      ("errors", d'.errors.map toValue)] =
    structValue [("docType", some (toValue d.docType)),
      ("issuerSigned", some (toValue d.issuerSigned)),
      ("deviceSigned", some (toValue (d.finalize signature).deviceSigned)),
      ("errors", d.errors.map toValue)]
  rw [hdocType, hissuer', hissuer, hdeviceSigned, hmap]

theorem forall₂_of_toValue {α : Type} [Serialize α] {l l' : List α} {v : Value}
    (h : toValue l = .ok v) (h' : toValue l' = .ok v) :
    List.Forall₂ (fun a a' : α => ∃ u, toValue a = .ok u ∧ toValue a' = .ok u) l l' := by
  obtain ⟨vs, hvs, rfl⟩ := map_eq_ok h
  obtain ⟨vs', hvs', heq⟩ := map_eq_ok h'
  cases heq
  have hl := mapM_forall₂ hvs
  have hl' := mapM_forall₂ hvs'
  clear h h' hvs hvs'
  induction hl generalizing l' with
  | nil =>
    cases hl'
    exact .nil
  | cons ha _ ih =>
    cases hl' with
    | cons ha' htail => exact .cons ⟨_, ha, ha'⟩ (ih htail)

namespace PreparedDeviceResponse

/-- two responses whose parts are written alike -/
structure WrittenAlike (p p' : PreparedDeviceResponse) : Prop where
  preparedDocuments : List.Forall₂ (fun d d' : PreparedDocument =>
    (toValue d' : Except String Value) = toValue d) p.preparedDocuments p'.preparedDocuments
  signedDocuments : List.Forall₂ (fun d d' : DeviceResponse.Document =>
    (toValue d' : Except String Value) = toValue d) p.signedDocuments p'.signedDocuments
  documentErrors : nullable p'.documentErrors = nullable p.documentErrors
  status : p'.status = p.status

variable {p p' : PreparedDeviceResponse}

theorem WrittenAlike.toValue_eq (h : p.WrittenAlike p') :
    (toValue p' : Except String Value) = toValue p := by
  show structValue [("prepared_documents", some (toValue p'.preparedDocuments)),
      ("signed_documents", some (toValue p'.signedDocuments)),
      ("document_errors", some (nullable p'.documentErrors)), ("status", some (toValue p'.status))] =
    structValue [("prepared_documents", some (toValue p.preparedDocuments)),
      ("signed_documents", some (toValue p.signedDocuments)),
      ("document_errors", some (nullable p.documentErrors)), ("status", some (toValue p.status))]
  rw [toValue_list h.preparedDocuments, toValue_list h.signedDocuments, h.documentErrors, h.status]

/-- **Responses that are written alike are signed alike**, and so are their parts written. -/
theorem alike_of_toValue {v : Value} (h : toValue p = .ok v) (h' : toValue p' = .ok v) :
    p.WrittenAlike p' ∧ p.Alike p' := by
  obtain ⟨⟨ps, hps, hps'⟩, w, hrest, hrest'⟩ := structValue_cons_inj h h'
  obtain ⟨⟨ss, hss, hss'⟩, w, hrest, hrest'⟩ := structValue_cons_inj hrest hrest'
  obtain ⟨⟨errors, herrors, herrors'⟩, w, hrest, hrest'⟩ := structValue_cons_inj hrest hrest'
  obtain ⟨⟨status, hstatus, hstatus'⟩, -⟩ := structValue_cons_inj hrest hrest'
  have hprepared := forall₂_of_toValue hps hps'
  have hsigned := (forall₂_of_toValue hss hss').imp fun d d' hd => by
    obtain ⟨u, hu, hu'⟩ := hd
    exact hu'.trans hu.symm
  have hsame : p'.status = p.status := by
    have hread (status : DeviceResponse.Status) :
        (ofValue (Value.ofUInt64 status.toUInt64) : Except String DeviceResponse.Status) =
          .ok status := by cases status <;> rfl
    have hvalue : Value.ofUInt64 p'.status.toUInt64 = Value.ofUInt64 p.status.toUInt64 :=
      Except.ok.inj (hstatus'.trans hstatus.symm)
    have hstatus := hread p'.status
    rw [hvalue, hread] at hstatus
    exact (Except.ok.inj hstatus).symm
  refine ⟨⟨hprepared.imp fun d d' hd => ?_, hsigned, herrors'.trans herrors.symm, hsame⟩,
    ⟨hprepared.imp fun d d' hd => ?_, hsigned, ?_, hsame⟩⟩
  · obtain ⟨u, hu, hu'⟩ := hd
    exact hu'.trans hu.symm
  · obtain ⟨u, hu, hu'⟩ := hd
    exact PreparedDocument.alike_of_toValue hu hu'
  · exact nullable_inj (fun l hl => by
      obtain ⟨vs, -, hvs⟩ := map_eq_ok hl
      cases hvs) (herrors'.trans herrors.symm)

theorem WrittenAlike.submitNextSignature (h : p.WrittenAlike p') (halike : p.Alike p')
    (signature : Bytes) :
    (p.submitNextSignature signature).WrittenAlike (p'.submitNextSignature signature) := by
  have hlastAlike := rel_getLast? halike.preparedDocuments
  unfold PreparedDeviceResponse.submitNextSignature
  generalize p.preparedDocuments.getLast? = last at hlastAlike ⊢
  generalize p'.preparedDocuments.getLast? = last' at hlastAlike ⊢
  cases hlastAlike with
  | none => exact h
  | some hdoc =>
    refine ⟨?_, List.rel_append h.signedDocuments (.cons (hdoc.finalize signature) .nil),
      h.documentErrors, h.status⟩
    show List.Forall₂ _ p.preparedDocuments.dropLast p'.preparedDocuments.dropLast
    rw [List.dropLast_eq_take, List.dropLast_eq_take, h.preparedDocuments.length_eq]
    exact List.forall₂_take _ h.preparedDocuments

end PreparedDeviceResponse

end Device

end

/-! ## a response that waits -/

namespace Device

section
variable [LawfulCiborium] [FaithfulCiborium] [CosetHeader] [ReadableHeaders] [Coset] [LawfulCoset]
  {S : Type} [Serialize S] {documents : Documents} {sessionTranscript : S}
  {deviceAuthType : DeviceAuthType} {requests : RequestedItems} {permitted : PermittedItems}

theorem rereads_preparedCose_sign1 {L : ℕ → Value → Prop} [Layered L] {n : ℕ} {p : PreparedCoseSign1}
    (h : Rereads L n p) : Rereads L (n + 1) (PreparedCose.Sign1 p) := by
  refine rereads_variant (fun _ => rfl) (fun v p' hp' => ?_) h
  show PreparedCose.Sign1 <$> (ofValue v : Except String PreparedCoseSign1) = _
  rw [hp']
  rfl

theorem rereads_preparedCose_mac0 {L : ℕ → Value → Prop} [Layered L] {n : ℕ} {p : PreparedCoseMac0}
    (h : Rereads L n p) : Rereads L (n + 1) (PreparedCose.Mac0 p) := by
  refine rereads_variant (fun _ => rfl) (fun v p' hp' => ?_) h
  show PreparedCose.Mac0 <$> (ofValue v : Except String PreparedCoseMac0) = _
  rw [hp']
  rfl

theorem rereads_preparedCose {L : ℕ → Value → Prop} [Layered L] {a : Algorithm} (ha : a.Named)
    {payload : Bytes} {c : PreparedCose} (h : prepareCose deviceAuthType a payload = some c) :
    Rereads L 13 c := by
  cases deviceAuthType with
  | Sign1 =>
    cases h
    have hsign1 : Rereads L 11 (⟨false, ⟨⟨none, Header.ofAlgorithm a⟩, Header.empty, none, []⟩⟩ :
        MaybeTagged CoseSign1) := (rereads_sign1 ha []).mono (by decide)
    exact rereads_preparedCose_sign1 (rereads_preparedSign1 hsign1 _)
  | Mac0 =>
    cases h
    have hmac0 : Rereads L 11 (⟨false, ⟨⟨none, Header.ofAlgorithm a⟩, Header.empty, none, []⟩⟩ :
        MaybeTagged CoseMac0) := (rereads_mac0 ha []).mono (by decide)
    exact rereads_preparedCose_mac0 (rereads_preparedMac0 hmac0 _)

/-- the documents that are held are what a codec could have read -/
def HeldReadable (documents : Documents) : Prop :=
  ∀ (docType : String) (document : Document),
    documents.toMap[docType]? = some document → document.Readable

/-- the part of a document that the issuer signed reads back -/
theorem FromHeld.rereads_issuerSigned {d : DeviceResponse.Document}
    (hreadable : HeldReadable documents) (h : FromHeld documents d) :
    Rereads PlainLayer 13 d.issuerSigned := by
  obtain ⟨docType, document, hdocument, hauth, hitems⟩ := h.held
  obtain ⟨hissuerAuth, hread⟩ := hreadable docType document hdocument
  refine Isomdl.rereads_issuerSigned (n := 9) (fun ns t ht => ?_) ?_
  · obtain ⟨element, helement⟩ := hitems ns t ht
    exact hread ns element t helement
  · rw [hauth]
    exact (rereads_plain_iff 12 _).mpr hissuerAuth

/-- a document that waits for its signature reads back -/
theorem rereads_prepareDocument (hreadable : HeldReadable documents) {docType : String}
    {namespaces : BTreeMap String (List String)} {d : PreparedDocument}
    (h : prepareDocument documents sessionTranscript deviceAuthType docType namespaces = some d) :
    Rereads PlainLayer 14 d := by
  have hfrom := fromHeld_finalize h []
  have hissuer : Rereads PlainLayer 13 d.issuerSigned := hfrom.rereads_issuerSigned hreadable
  have herrors := hfrom.errors PlainLayer
  obtain ⟨document, algorithm, deviceNamespaces, payload, cose, -, halgorithm, hnamespaces, -, hcose,
    rfl⟩ := prepareDocument_eq_some.mp h
  exact rereads_preparedDocument (n := 11) hissuer (fromSlice_deviceNamespaces hnamespaces)
    (rereads_preparedCose (signatureAlgorithm_named halgorithm) hcose) herrors

namespace PreparedDeviceResponse

/-- a response whose documents read back, those that wait for a signature and those that it makes -/
structure Storable (p : PreparedDeviceResponse) : Prop where
  prepared : ∀ d ∈ p.preparedDocuments, Rereads PlainLayer 14 d
  each : p.Each (Rereads PlainLayer 14)

theorem Storable.readsBack {p : PreparedDeviceResponse} (h : p.Storable) : ReadsBack 16 p := by
  refine (rereads_plain_iff 16 p).mp (rereads_preparedDeviceResponse (n := 13) h.prepared
    h.each.signed fun l hl e he => ?_)
  obtain ⟨docType, rfl⟩ := h.each.errors l hl e he
  exact rereads_dataNotReturned docType

/-- **A response to a request for readable documents is storable.** -/
theorem storable_sessionPrepareResponse (hreadable : HeldReadable documents) :
    (sessionPrepareResponse documents sessionTranscript deviceAuthType requests
      permitted).Storable := by
  have heach : (sessionPrepareResponse documents sessionTranscript deviceAuthType requests
      permitted).Each (FromHeld documents) := each_sessionPrepareResponse
  have hrereads (d : DeviceResponse.Document) (hd : FromHeld documents d) :
      Rereads PlainLayer 14 d :=
    rereads_document (n := 11) (hd.rereads_issuerSigned hreadable) (hd.deviceSigned _) (hd.errors _)
  refine ⟨fun d hd => ?_, fun d hd signature => hrereads _ (heach.prepared d hd signature),
    fun d hd => hrereads d (heach.signed d hd), heach.errors⟩
  obtain ⟨namespaces, -, hprepare⟩ := mem_preparedDocuments.mp hd
  exact rereads_prepareDocument hreadable hprepare

/-- **A signature keeps a response storable.** -/
theorem Storable.signedBy {p : PreparedDeviceResponse} (h : p.Storable) (signatures : List Bytes) :
    (p.signedBy signatures).Storable :=
  ⟨fun d hd => h.prepared d (List.mem_of_mem_take hd), h.each.signedBy signatures⟩

/-- what becomes of a response while signatures are submitted, and whenever it is stored and read
back -/
inductive Suspended (p : PreparedDeviceResponse) : List Bytes → PreparedDeviceResponse → Prop
  | prepared : Suspended p [] p
  | signed {signatures : List Bytes} {q : PreparedDeviceResponse} (h : Suspended p signatures q)
    (signature : Bytes) : Suspended p (signatures ++ [signature]) (q.submitNextSignature signature)
  | stored {signatures : List Bytes} {q q' : PreparedDeviceResponse} {bytes : Bytes}
    (h : Suspended p signatures q) (hwrite : toVec q = .ok bytes)
    (hread : fromSlice PreparedDeviceResponse bytes = .ok q') : Suspended p signatures q'

/-- **It is written like the one that never was stored.** -/
theorem Suspended.toValue_eq {p q : PreparedDeviceResponse} (hp : p.Storable)
    {signatures : List Bytes} (h : Suspended p signatures q) :
    (toValue q : Except String Value) = toValue (p.signedBy signatures) := by
  induction h with
  | prepared => rw [signedBy_nil]
  | @signed signatures q h signature ih =>
    obtain ⟨v, hv⟩ := (hp.signedBy signatures).readsBack
    obtain ⟨hwritten, halike⟩ := alike_of_toValue hv.written (ih.trans hv.written)
    rw [signedBy_concat]
    exact (hwritten.submitNextSignature halike signature).toValue_eq
  | @stored signatures q q' bytes h hwrite hread ih =>
    obtain ⟨v, hv⟩ := (hp.signedBy signatures).readsBack
    obtain ⟨q'', hread', hback⟩ := hv.read
    have hbytes : toVec q = .ok (Ciborium.intoWriter v) := toVec_ok (ih.trans hv.written)
    have hslice := LawfulCiborium.fromSlice_intoWriter hv.plain hread'
    rw [hwrite] at hbytes
    rw [Except.ok.inj hbytes, hslice] at hread
    rw [← Except.ok.inj hread, hback, hv.written]

/-- the same signatures are asked for and the same bytes are made, and the response can be stored -/
structure Continues (p q : PreparedDeviceResponse) : Prop where
  getNextSignaturePayload : q.getNextSignaturePayload = p.getNextSignaturePayload
  isComplete : q.isComplete = p.isComplete
  finalizeResponse : ∃ bytes, toVec q.finalizeResponse = .ok bytes ∧
    toVec p.finalizeResponse = .ok bytes
  stored : ∃ bytes q', toVec q = .ok bytes ∧ fromSlice PreparedDeviceResponse bytes = .ok q'

/-- **A prepared response can be stored wherever it waits.**  Whatever a session prepares from readable
documents: after any signatures, and any number of times that it was stored and read back between
them, it can be stored again, it asks for the signature that the response that was never stored asks
for, and it is finalized to the same bytes. -/
theorem suspended_agrees (hreadable : HeldReadable documents) {signatures : List Bytes}
    {q : PreparedDeviceResponse}
    (h : Suspended (sessionPrepareResponse documents sessionTranscript deviceAuthType requests
      permitted) signatures q) :
    Continues ((sessionPrepareResponse documents sessionTranscript deviceAuthType requests
      permitted).signedBy signatures) q := by
  have hp : (sessionPrepareResponse documents sessionTranscript deviceAuthType requests
      permitted).Storable := storable_sessionPrepareResponse hreadable
  have hsigned := hp.signedBy signatures
  obtain ⟨v, hv⟩ := hsigned.readsBack
  have hq : (toValue q : Except String Value) = .ok v := (h.toValue_eq hp).trans hv.written
  obtain ⟨-, halike⟩ := alike_of_toValue hv.written hq
  obtain ⟨q', hread, -⟩ := hv.read
  refine ⟨halike.getNextSignaturePayload, halike.isComplete, ?_, ?_⟩
  · have hfinal : Rereads PlainLayer 16 ((sessionPrepareResponse documents sessionTranscript
        deviceAuthType requests permitted).signedBy signatures).finalizeResponse :=
      hsigned.each.finalizeResponse fun d hd => hsigned.each.documentList d hd
    obtain ⟨w, hw, -⟩ := hfinal
    refine ⟨_, ?_, toVec_ok hw⟩
    rw [halike.toVec_finalizeResponse]
    exact toVec_ok hw
  · exact ⟨_, q', toVec_ok hq, LawfulCiborium.fromSlice_intoWriter hv.plain hread⟩

end PreparedDeviceResponse

end

section
open scoped Reference

theorem Sample.heldReadable : HeldReadable Sample.readableSession.documents := by
  intro docType document h
  rw [eq_of_getElem?_new h]
  refine ⟨⟨.array [.bytes [], .map [], .null, .bytes []], rfl, ?_, _, rfl, rfl⟩,
    fun ns element t ht => ?_⟩
  · simp
  · obtain ⟨items, hns, helement⟩ := Option.bind_eq_some_iff.mp ht
    rw [eq_of_getElem?_new hns] at helement
    rw [eq_of_getElem?_new helement]
    have hread : (fromSlice IssuerSignedItem Sample.readableItem.innerBytes).toOption.isSome := by
      decide +kernel
    cases hinner : fromSlice IssuerSignedItem Sample.readableItem.innerBytes with
    | error e =>
      rw [hinner] at hread
      cases hread
    | ok inner => exact ⟨inner, rfl⟩

/-- what a holder prepares for a request for one item -/
def Sample.preparedResponse : PreparedDeviceResponse :=
  sessionPrepareResponse Sample.readableSession.documents Sample.sessionTranscript .Sign1
    Sample.requests Sample.permitted

theorem PreparedDeviceResponse.suspended_agrees_sample :
    ∃ bytes q, toVec Sample.preparedResponse = .ok bytes ∧
      fromSlice PreparedDeviceResponse bytes = .ok q ∧ q.getNextSignaturePayload.isSome ∧
      Continues (Sample.preparedResponse.signedBy [[1]]) (q.submitNextSignature [1]) := by
  have hagrees {signatures : List Bytes} {q : PreparedDeviceResponse}
      (h : Suspended Sample.preparedResponse signatures q) :
      Continues (Sample.preparedResponse.signedBy signatures) q :=
    suspended_agrees (S := SessionTranscript180135) Sample.heldReadable h
  obtain ⟨bytes, q, hwrite, hread⟩ := (hagrees .prepared).stored
  have hstored := Suspended.stored .prepared hwrite hread
  refine ⟨bytes, q, hwrite, hread, ?_, hagrees (hstored.signed [1])⟩
  have hsome : Sample.preparedResponse.getNextSignaturePayload.isSome := by decide +kernel
  rw [(hagrees hstored).getNextSignaturePayload, signedBy_nil]
  exact hsome

end

end Device

end Isomdl
