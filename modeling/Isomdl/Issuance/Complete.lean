import Isomdl.Decoding
import Isomdl.Issuance.Commitments
import Isomdl.Presentation.Authentication
import Isomdl.Reference.X509

/-!
# Completing a credential (`issuance/mdoc.rs`)

The issuer checks the signature that was made elsewhere, attaches it, and puts the certificate
chain into the unprotected header.

* `finishPreparation_signs`    what a prepared credential asks a signature for;
* `PreparedMdoc.complete_ok`   what a completed credential is made of;
* `PreparedMdoc.Consistent.stored`
                               the payload of a credential is kept when it is stored and read;
* `complete_accepted`          a reader accepts what the issuer completes.
-/

set_option linter.unusedSectionVars false

namespace Isomdl

open Cbor

/-- a signed mdoc -/
structure Mdoc where
  docType : String
  mso : Mso
  namespaces : IssuerNamespaces
  issuerAuth : MaybeTagged CoseSign1

/-- the `Debug` text of an algorithm; one that the code does not name is shown by its number -/
def Algorithm.debug : Algorithm → String
  | .ES256 => "ES256"
  | .ES384 => "ES384"
  | .ES512 => "ES512"
  | .EdDSA => "EdDSA"
  | .HMAC_256_256 => "HMAC_256_256"
  | .other id => toString id

/-- `PreparedCoseSign1::algorithm` -/
def PreparedCoseSign1.algorithm (p : PreparedCoseSign1) : Option Algorithm :=
  match p.coseSign1.inner.protectedHeader.header.alg with
  | some (.assigned algorithm) => some algorithm
  | _ => none

namespace X5Chain

/-- `into_cbor` -/
def intoCbor (chain : X5Chain) : Value :=
  match chain.certs.toList with
  | [cert] => .bytes cert.der
  | certs => .array (certs.map fun x509 => .bytes x509.der)

section
variable [X509Cert]

/-- `end_entity_public_key_with_oid`, for a curve with this decoder of points -/
def endEntityKeyOnCurve {K : Type} (chain : X5Chain) (fromSec1Point : Bytes → Option K)
    (expectedCurveOid : ObjectIdentifier) : Except String K := do
  let rawBytes ← publicKeyBytesWithOid chain.endEntityCertificate expectedCurveOid
  match fromSec1Point rawBytes with
  | some key => .ok key
  | none => .error "could not parse certificate SEC1 public key"

end

end X5Chain

/-- one arm of `verify_remote_signature`, on the digest of the payload -/
def verifyRemote {K S : Type} (algorithm : Algorithm) (signatureFromSlice : Bytes → Except String S)
    (key : Except String K) (verifyPrehashed : K → Bytes → S → Except String Unit)
    (digest signature : Bytes) : Except String Unit := do
  let signature ← (signatureFromSlice signature).mapError fun e =>
    "invalid " ++ algorithm.debug ++ " remote signature encoding: " ++ e
  let key ← key.mapError fun e =>
    "invalid " ++ algorithm.debug ++ " end-entity public key: " ++ e
  (verifyPrehashed key digest signature).mapError fun e =>
    "unauthentic " ++ algorithm.debug ++ " remote signature: " ++ e

section
variable [X509Cert] [P256] [P384] [P521] [Sha2]

/-- `verify_remote_signature` -/
def verifyRemoteSignature (algorithm : Algorithm) (x5chain : X5Chain) (payload signature : Bytes) :
    Except String Unit :=
  match algorithm with
  | .ES256 => verifyRemote .ES256 P256.signatureFromSlice
      (x5chain.endEntityPublicKeyWithOid Oid.SECP_256_R_1) P256.verifyPrehashed
      (Sha2.sha256 payload) signature
  | .ES384 => verifyRemote .ES384 P384.signatureFromSlice
      (x5chain.endEntityKeyOnCurve P384.fromSec1Point Oid.SECP_384_R_1) P384.verifyPrehashed
      (Sha2.sha384 payload) signature
  | .ES512 => verifyRemote .ES512 P521.signatureFromSlice
      (x5chain.endEntityKeyOnCurve P521.fromSec1Point Oid.SECP_521_R_1) P521.verifyPrehashed
      (Sha2.sha512 payload) signature
  | algorithm => .error ("unsupported remote mdoc signing algorithm: " ++ algorithm.debug)

namespace PreparedMdoc

/-- `complete` -/
def complete (m : PreparedMdoc) (x5chain : X5Chain) (signature : Bytes) : Except String Mdoc :=
  match m.preparedSig.algorithm with
  | none => .error "prepared mdoc is missing a protected signature algorithm"
  | some algorithm => do
    verifyRemoteSignature algorithm x5chain m.signaturePayload signature
    let issuerAuth := m.preparedSig.finalize signature
    let unprotected := issuerAuth.inner.unprotected
    .ok
      { docType := m.docType
        mso := m.mso
        namespaces := m.namespaces
        issuerAuth :=
          { issuerAuth with
            inner :=
              { issuerAuth.inner with
                unprotected :=
                  { unprotected with
                    rest := unprotected.rest ++
                      [(.int X5CHAIN_COSE_HEADER_LABEL, x5chain.intoCbor)] } } } }

end PreparedMdoc

/-! ## what a signature was asked for -/

/-- the signature that a preparation asks for -/
def signatureOver [Coset] (signatureAlgorithm : Algorithm) (msoBytes : Bytes) :
    PreparedCoseSign1 where
  coseSign1 := ⟨false, ⟨⟨none, Header.ofAlgorithm signatureAlgorithm⟩, Header.empty, some msoBytes, []⟩⟩
  signaturePayload := Coset.sigStructureData .coseSign1
    ⟨none, Header.ofAlgorithm signatureAlgorithm⟩ none [] msoBytes

/-- **A prepared credential asks for a signature over its security object.** -/
theorem finishPreparation_signs [Ciborium] [Rfc3339] [Coset] {docType : String}
    {issuerNamespaces : IssuerNamespaces} {validityInfo : ValidityInfo}
    {digestAlgorithm : DigestAlgorithm} {deviceKeyInfo : DeviceKeyInfo}
    {signatureAlgorithm : Algorithm} {valueDigests : BTreeMap String DigestIds} {m : PreparedMdoc}
    (h : finishPreparation docType issuerNamespaces validityInfo digestAlgorithm deviceKeyInfo
      signatureAlgorithm valueDigests = .ok m) :
    ∃ mso24 msoBytes, Tag24.new m.mso = .ok mso24 ∧ toVec mso24 = .ok msoBytes ∧
      m.preparedSig = signatureOver signatureAlgorithm msoBytes := by
  obtain ⟨mso24, hmso24, h⟩ := bind_eq_ok h
  obtain ⟨msoBytes, hbytes, h⟩ := bind_eq_ok h
  obtain ⟨preparedSig, hsig, h⟩ := bind_eq_ok h
  cases h
  have hnew := mapError_eq_ok hsig
  obtain ⟨payload, hpayload, heq⟩ := PreparedCoseSign1.new_ok_iff.mp hnew
  cases hpayload
  exact ⟨mso24, msoBytes, mapError_eq_ok hmso24, mapError_eq_ok hbytes, heq⟩

/-- **What a completed credential is made of.** -/
theorem PreparedMdoc.complete_ok [Coset] {m : PreparedMdoc} {x5chain : X5Chain} {signature : Bytes}
    {mdoc : Mdoc} (h : m.complete x5chain signature = .ok mdoc) :
    ∃ algorithm, m.preparedSig.algorithm = some algorithm ∧
      verifyRemoteSignature algorithm x5chain m.signaturePayload signature = .ok () ∧
      mdoc.docType = m.docType ∧ mdoc.mso = m.mso ∧ mdoc.namespaces = m.namespaces ∧
      mdoc.issuerAuth.tagged = m.preparedSig.coseSign1.tagged ∧
      mdoc.issuerAuth.inner.protectedHeader = m.preparedSig.coseSign1.inner.protectedHeader ∧
      mdoc.issuerAuth.inner.payload = m.preparedSig.coseSign1.inner.payload ∧
      mdoc.issuerAuth.inner.signature = signature := by
  unfold complete at h
  cases halg : m.preparedSig.algorithm with
  | none =>
    rw [halg] at h
    cases h
  | some algorithm =>
    rw [halg] at h
    obtain ⟨u, hverify, h⟩ := bind_eq_ok h
    cases h
    exact ⟨algorithm, rfl, hverify, rfl, rfl, rfl, rfl, rfl, rfl, rfl⟩

/-! ## prepared credentials that are stored -/

/-- a vector of bytes under `serde_bytes` -/
structure SerdeBytes where
  bytes : Bytes

instance : Serialize SerdeBytes := ⟨fun b => .ok (.bytes b.bytes)⟩

/-- a byte string, or a sequence of bytes -/
instance : Deserialize SerdeBytes where
  ofValue v :=
    match v.untagged with
    | .bytes bytes => .ok ⟨bytes⟩
    | .array vs => SerdeBytes.mk <$>
      vs.mapM fun v => (fun i => UInt8.ofNat i.toNat) <$> boundedInt 0 255 v
    | _ => .error "invalid type: expected byte array"

section
variable [Ciborium] [Coset]

instance : Serialize PreparedCoseSign1 where
  toValue p := structValue
    [("cose_sign1", some (toValue p.coseSign1)),
     ("signature_payload", some (toValue (SerdeBytes.mk p.signaturePayload)))]

instance : Deserialize PreparedCoseSign1 where
  ofValue v := do
    let fields ← Fields.ofValue "PreparedCoseSign1" v
    let coseSign1 ← fields.required "cose_sign1" (MaybeTagged CoseSign1)
    let signaturePayload ← fields.required "signature_payload" SerdeBytes
    .ok { coseSign1, signaturePayload := signaturePayload.bytes }

variable [Rfc3339]

instance : Serialize PreparedMdoc where
  toValue m := structValue
    [("doc_type", some (toValue m.docType)), ("mso", some (toValue m.mso)),
     ("namespaces", some (toValue m.namespaces)), ("prepared_sig", some (toValue m.preparedSig))]

instance : Deserialize PreparedMdoc where
  ofValue v := do
    let fields ← Fields.ofValue "PreparedMdoc" v
    let docType ← fields.required "doc_type" String
    let mso ← fields.required "mso" Mso
    let namespaces ← fields.required "namespaces" IssuerNamespaces
    let preparedSig ← fields.required "prepared_sig" PreparedCoseSign1
    .ok { docType, mso, namespaces, preparedSig }

end

end

/-! ## acceptance -/

section
variable [X509Cert] [P256] [P384] [P521] [Sha2]

/-- an ES256 signature over `payload` under the key of the chain's leaf -/
def LeafSigned (x5chain : X5Chain) (payload signature : Bytes) : Prop :=
  ∃ key s, x5chain.endEntityPublicKeyWithOid Oid.SECP_256_R_1 = .ok key ∧
    P256.signatureFromSlice signature = .ok s ∧
    P256.verifyPrehashed key (Sha2.sha256 payload) s = .ok ()

theorem verifyRemoteSignature_es256 {x5chain : X5Chain} {payload signature : Bytes}
    (h : verifyRemoteSignature .ES256 x5chain payload signature = .ok ()) :
    LeafSigned x5chain payload signature := by
  obtain ⟨s, hs, h⟩ := bind_eq_ok h
  obtain ⟨key, hkey, h⟩ := bind_eq_ok h
  exact ⟨key, s, mapError_eq_ok hkey, mapError_eq_ok hs, mapError_eq_ok h⟩

variable [Ciborium] [Rfc3339] [Coset]

/-- `payload` is what a signature of this structure is over -/
def SignsItself (c : CoseSign1) (payload : Bytes) : Prop :=
  ∃ content, c.payload = some content ∧
    payload = Coset.sigStructureData .coseSign1 c.protectedHeader none [] content

/-- **What the issuer verified, the reader verifies.** -/
theorem issuerAuthentication_leafSigned {x5chain : X5Chain} {payload : Bytes}
    {issuerSigned : IssuerSigned}
    (hsigned : LeafSigned x5chain payload issuerSigned.issuerAuth.inner.signature)
    (halg : issuerSigned.issuerAuth.inner.protectedHeader.header.alg = some (.assigned .ES256))
    (hpayload : SignsItself issuerSigned.issuerAuth.inner payload) :
    issuerAuthentication x5chain issuerSigned = .ok () := by
  obtain ⟨key, s, hkey, hs, hverify⟩ := hsigned
  obtain ⟨content, hcontent, rfl⟩ := hpayload
  rw [issuerAuthentication_eq_ok]
  refine ⟨key, hkey, verify_eq_success.mpr ⟨?_, content, s, ?_, hs, hverify⟩⟩
  · unfold algorithmMismatch
    rw [halg]
    rfl
  · rw [onePayload_none, hcontent]

variable [CosetHeader]

/-- the signature that is asked for is over the structure that it goes into, whose protected header
a builder made or was read -/
structure PreparedMdoc.Consistent (m : PreparedMdoc) : Prop where
  protectedHeader : m.preparedSig.coseSign1.inner.protectedHeader.Coherent
  payload : SignsItself m.preparedSig.coseSign1.inner m.signaturePayload

theorem PreparedCoseSign1.algorithm_eq_some {p : PreparedCoseSign1} {a : Algorithm} :
    p.algorithm = some a ↔ p.coseSign1.inner.protectedHeader.header.alg = some (.assigned a) := by
  unfold algorithm
  split
  · next heq => rw [heq]; simp
  · next hne =>
    constructor
    · intro h
      cases h
    · intro h
      exact absurd h (hne a)

/-- the protected header of a preparation, as a builder's -/
def es256Header : BuiltHeader :=
  ⟨Header.ofAlgorithm .ES256, .inr ⟨.ES256, trivial, rfl⟩, by simp [Header.ofAlgorithm]⟩

/-- **A credential that was prepared for ES256 is consistent.** -/
theorem finishPreparation_consistent {docType : String} {issuerNamespaces : IssuerNamespaces}
    {validityInfo : ValidityInfo} {digestAlgorithm : DigestAlgorithm}
    {deviceKeyInfo : DeviceKeyInfo} {valueDigests : BTreeMap String DigestIds} {m : PreparedMdoc}
    (h : finishPreparation docType issuerNamespaces validityInfo digestAlgorithm deviceKeyInfo
      .ES256 valueDigests = .ok m) :
    m.Consistent ∧ m.preparedSig.algorithm = some .ES256 := by
  obtain ⟨mso24, msoBytes, -, -, hsig⟩ := finishPreparation_signs h
  refine ⟨⟨?_, ?_⟩, ?_⟩
  · rw [hsig]
    exact .inl ⟨es256Header, rfl⟩
  · unfold PreparedMdoc.signaturePayload
    rw [hsig]
    exact ⟨msoBytes, rfl, rfl⟩
  · rw [hsig]
    rfl

variable [FaithfulCiborium] [LawfulCoset]

/-- what is decoded of a consistent structure asks for the same signature -/
theorem SignsItself.kept {c c' : CoseSign1} {payload : Bytes} (h : SignsItself c payload)
    (hpayload : c'.payload = c.payload) (hkept : Kept c.protectedHeader c'.protectedHeader) :
    SignsItself c' payload := by
  obtain ⟨content, hcontent, rfl⟩ := h
  exact ⟨content, hpayload.trans hcontent, (hkept.sigStructureData [] content).symm⟩

theorem decodes_serdeBytes : Decodes fun b c : SerdeBytes => c = b := by
  intro b v w c hv hsim hw
  cases hv
  have hbytes : w = .bytes b.bytes := hsim
  subst hbytes
  exact (Except.ok.inj hw).symm

section
variable {R : MaybeTagged CoseSign1 → MaybeTagged CoseSign1 → Prop}

theorem decodes_preparedCoseSign1 (hR : Decodes R) : Decodes fun p p' : PreparedCoseSign1 =>
    p'.signaturePayload = p.signaturePayload ∧ R p.coseSign1 p'.coseSign1 := by
  intro p v w p' hv hsim hw
  obtain ⟨fields, hfields, hw⟩ := bind_eq_ok hw
  obtain ⟨coseSign1, hcose, hw⟩ := bind_eq_ok hw
  obtain ⟨signaturePayload, hpayload, hw⟩ := bind_eq_ok hw
  cases hw
  have hnd : ["cose_sign1", "signature_payload"].Nodup := by decide
  have hbytes : signaturePayload = ⟨p.signaturePayload⟩ :=
    Fields.required_decodes decodes_serdeBytes hv hsim hfields hnd (by simp) hpayload
  exact ⟨congrArg SerdeBytes.bytes hbytes,
    Fields.required_decodes hR hv hsim hfields hnd (by simp) hcose⟩

theorem decodes_preparedSig (hR : Decodes R) : Decodes fun m m' : PreparedMdoc =>
    m'.signaturePayload = m.signaturePayload ∧
      R m.preparedSig.coseSign1 m'.preparedSig.coseSign1 := by
  intro m v w m' hv hsim hw
  obtain ⟨fields, hfields, hw⟩ := bind_eq_ok hw
  obtain ⟨docType, -, hw⟩ := bind_eq_ok hw
  obtain ⟨mso, -, hw⟩ := bind_eq_ok hw
  obtain ⟨namespaces, -, hw⟩ := bind_eq_ok hw
  obtain ⟨preparedSig, hsig, hw⟩ := bind_eq_ok hw
  cases hw
  have hnd : ["doc_type", "mso", "namespaces", "prepared_sig"].Nodup := by decide
  exact Fields.required_decodes (decodes_preparedCoseSign1 hR) hv hsim hfields hnd (by simp) hsig

end

/-- **A stored credential is read as it was prepared**, as far as its signature goes. -/
theorem PreparedMdoc.Consistent.stored {m m' : PreparedMdoc} (h : m.Consistent) {bytes : Bytes}
    (henc : toVec m = .ok bytes) (hdec : fromSlice PreparedMdoc bytes = .ok m') :
    m'.Consistent ∧ m'.preparedSig.algorithm = m.preparedSig.algorithm := by
  obtain ⟨hsignaturePayload, hsaved⟩ := (decodes_preparedSig decodes_sign1).fromSlice henc hdec
  obtain ⟨hkept, hcoherent⟩ := hsaved.protectedHeader h.protectedHeader
  refine ⟨⟨hcoherent, ?_⟩, ?_⟩
  · rw [hsignaturePayload]
    exact h.payload.kept hsaved.payload hkept
  · unfold PreparedCoseSign1.algorithm
    rw [hkept.alg]

/-- what a reader makes of everything that is built from a completed credential, before and after
it is written and read -/
def Accepted (x5chain : X5Chain) (mdoc : Mdoc) : Prop :=
  ∀ issuerSigned : IssuerSigned, issuerSigned.issuerAuth = mdoc.issuerAuth →
    issuerAuthentication x5chain issuerSigned = .ok () ∧
    ∀ bytes issuerSigned', toVec issuerSigned = .ok bytes →
      fromSlice IssuerSigned bytes = .ok issuerSigned' →
        issuerAuthentication x5chain issuerSigned' = .ok ()

theorem PreparedMdoc.Consistent.accepted {m : PreparedMdoc} (h : m.Consistent)
    (halg : m.preparedSig.algorithm = some .ES256) {x5chain : X5Chain} {signature : Bytes} {mdoc : Mdoc}
    (hsigned : LeafSigned x5chain m.signaturePayload signature)
    (hcomplete : m.complete x5chain signature = .ok mdoc) : Accepted x5chain mdoc := by
  obtain ⟨-, -, -, -, -, -, -, hprotected, hpayload, hsignature⟩ := m.complete_ok hcomplete
  have hheader := PreparedCoseSign1.algorithm_eq_some.mp halg
  obtain ⟨content, hcontent, hover⟩ := h.payload
  intro issuerSigned heq
  rw [← heq] at hprotected hpayload hsignature
  have hitself : SignsItself issuerSigned.issuerAuth.inner m.signaturePayload := by
    refine ⟨content, hpayload.trans hcontent, ?_⟩
    rw [hprotected]
    exact hover
  rw [← hsignature] at hsigned
  rw [← hprotected] at hheader
  refine ⟨issuerAuthentication_leafSigned hsigned hheader hitself, ?_⟩
  intro bytes issuerSigned' henc hdec
  have hsaved := (decodes_issuerAuth decodes_sign1).fromSlice henc hdec
  have hcoherent : issuerSigned.issuerAuth.inner.protectedHeader.Coherent := by
    rw [hprotected]
    exact h.protectedHeader
  obtain ⟨hkept, -⟩ := hsaved.protectedHeader hcoherent
  rw [← hsaved.signature] at hsigned
  exact issuerAuthentication_leafSigned hsigned (hkept.alg.trans hheader)
    (hitself.kept hsaved.payload hkept)

/-- **A reader accepts what the issuer completes.**  For every credential that asks for ES256: a
signature that completes it is over what it asked for; when that is the structure the signature goes
into, the reader's own check of the issuer succeeds, also on what it decodes; and so it is for
every credential that a preparation made, however often it was stored and read.  A credential that
is not written, or not read back, is neither stored nor shown to a reader. -/
theorem complete_accepted :
    (∀ (m : PreparedMdoc) (x5chain : X5Chain) (signature : Bytes) (mdoc : Mdoc),
      m.preparedSig.algorithm = some .ES256 → m.complete x5chain signature = .ok mdoc →
        LeafSigned x5chain m.signaturePayload signature ∧
          (m.Consistent → Accepted x5chain mdoc)) ∧
    (∀ (docType : String) (issuerNamespaces : IssuerNamespaces) (validityInfo : ValidityInfo)
      (digestAlgorithm : DigestAlgorithm) (deviceKeyInfo : DeviceKeyInfo)
      (valueDigests : BTreeMap String DigestIds) (m : PreparedMdoc),
      finishPreparation docType issuerNamespaces validityInfo digestAlgorithm deviceKeyInfo
        .ES256 valueDigests = .ok m → m.Consistent ∧ m.preparedSig.algorithm = some .ES256) ∧
    ∀ (m m' : PreparedMdoc) (bytes : Bytes), m.Consistent → toVec m = .ok bytes →
      fromSlice PreparedMdoc bytes = .ok m' →
        m'.Consistent ∧ m'.preparedSig.algorithm = m.preparedSig.algorithm := by
  refine ⟨?_, fun _ _ _ _ _ _ _ h => finishPreparation_consistent h,
    fun _ _ _ h henc hdec => h.stored henc hdec⟩
  intro m x5chain signature mdoc halg hcomplete
  obtain ⟨algorithm, halgorithm, hverify, -⟩ := m.complete_ok hcomplete
  rw [halg] at halgorithm
  cases halgorithm
  have hsigned := verifyRemoteSignature_es256 hverify
  exact ⟨hsigned, fun h => h.accepted halg hsigned hcomplete⟩

end

section
open scoped Reference

namespace PreparedMdoc.Sample

def deviceKeyInfo : DeviceKeyInfo :=
  ⟨.EC2 .P256 (beBytes 32 Weierstrass.p256.x) (.value (beBytes 32 Weierstrass.p256.y)), none, none⟩

def issuerNamespaces : IssuerNamespaces :=
  NonEmptyMap.new "org.iso.18013.5.1" (NonEmptyVec.new
    ⟨⟨DigestId.new 1, ⟨[1, 2, 3]⟩, "family_name", .text "Mustermann"⟩, Ciborium.intoWriter (.map
      [(.text "digestID", .int 1), (.text "random", .bytes [1, 2, 3]),
       (.text "elementIdentifier", .text "family_name"),
       (.text "elementValue", .text "Mustermann")])⟩)

def validityInfo : ValidityInfo := ⟨⟨1798761600, 0, 0⟩, ⟨1798761600, 0, 0⟩, ⟨1830297600, 0, 0⟩, none⟩

def prepared : Except String PreparedMdoc :=
  finishPreparation "org.iso.18013.5.1.mDL" issuerNamespaces validityInfo .SHA256 deviceKeyInfo
    .ES256 ∅

def x5chain : Except String X5Chain := X5Chain.fromCbor (.bytes Reference.signerDer)

/-- the signer's signature of what was prepared -/
def signature : Bytes :=
  beBytes 32 0x908f6655827d0f7ac646c8b4730731dae470407a739e3234c4ce5ff824c0a543 ++
  beBytes 32 0x5b0e286405f0fbc57ed59faced3ea0f146b62ba5085213ca8c5308f20d4701d0

/-- what was prepared, written with a payload that is not its own -/
def altered : Except String Bytes := do
  let m ← prepared
  (toVec { m with preparedSig := { m.preparedSig with signaturePayload := [] } }).mapError
    CborError.display

/-- the signer's signature of nothing -/
def emptySignature : Bytes :=
  beBytes 32 0x24de4ecf7ae2f339baa04cea8fbf4bac1c61f737b3916e90c43b5a2f62ef5bad ++
  beBytes 32 0xb5dfdfbfd4faaf559efb3d0de996852f2f7d366328ccf9ad25631ace05904fad

end PreparedMdoc.Sample

/-- A credential is prepared, stored, read back and completed; what is built from it is written, read
back and accepted. -/
theorem complete_accepted_sample :
    ∃ m bytes m' x5chain mdoc issuerSigned issuerBytes issuerSigned',
      PreparedMdoc.Sample.prepared = .ok m ∧ toVec m = .ok bytes ∧
      fromSlice PreparedMdoc bytes = .ok m' ∧ PreparedMdoc.Sample.x5chain = .ok x5chain ∧
      m'.complete x5chain PreparedMdoc.Sample.signature = .ok mdoc ∧
      LeafSigned x5chain m'.signaturePayload PreparedMdoc.Sample.signature ∧
      issuerSigned = ⟨some mdoc.namespaces, mdoc.issuerAuth⟩ ∧
      toVec issuerSigned = .ok issuerBytes ∧ fromSlice IssuerSigned issuerBytes = .ok issuerSigned' ∧
      issuerAuthentication x5chain issuerSigned = .ok () ∧
      issuerAuthentication x5chain issuerSigned' = .ok () := by
  have hcheck : (PreparedMdoc.Sample.prepared.toOption.any fun m =>
      (toVec m).toOption.any fun bytes =>
        (fromSlice PreparedMdoc bytes).toOption.any fun m' =>
          PreparedMdoc.Sample.x5chain.toOption.any fun x5chain =>
            (m'.complete x5chain PreparedMdoc.Sample.signature).toOption.any fun mdoc =>
              (toVec (IssuerSigned.mk (some mdoc.namespaces) mdoc.issuerAuth)).toOption.any fun bytes =>
                (fromSlice IssuerSigned bytes).toOption.any fun _ => true) = true := by
    decide +kernel
  obtain ⟨m, hm, hcheck⟩ := exists_ok_of_any hcheck
  obtain ⟨bytes, hbytes, hcheck⟩ := exists_ok_of_any hcheck
  obtain ⟨m', hm', hcheck⟩ := exists_ok_of_any hcheck
  obtain ⟨x5chain, hchain, hcheck⟩ := exists_ok_of_any hcheck
  obtain ⟨mdoc, hmdoc, hcheck⟩ := exists_ok_of_any hcheck
  obtain ⟨issuerBytes, hissuerBytes, hcheck⟩ := exists_ok_of_any hcheck
  obtain ⟨issuerSigned', hissuerSigned', -⟩ := exists_ok_of_any hcheck
  obtain ⟨hcompletes, hprepares, hstores⟩ := complete_accepted
  obtain ⟨hconsistent, halg⟩ := hprepares _ _ _ _ _ _ _ hm
  obtain ⟨hconsistent', halg'⟩ := hstores m m' bytes hconsistent hbytes hm'
  obtain ⟨hsigned, haccepted⟩ := hcompletes m' x5chain _ mdoc (halg'.trans halg) hmdoc
  obtain ⟨hissuer, hread⟩ := haccepted hconsistent' ⟨some mdoc.namespaces, mdoc.issuerAuth⟩ rfl
  exact ⟨m, bytes, m', x5chain, mdoc, _, issuerBytes, issuerSigned', hm, hbytes, hm', hchain, hmdoc,
    hsigned, rfl, hissuerBytes, hissuerSigned', hissuer,
    hread issuerBytes issuerSigned' hissuerBytes hissuerSigned'⟩

/-- A stored credential whose payload was replaced is completed and not accepted. -/
theorem altered_not_accepted :
    ¬ ∀ (bytes : Bytes) (m : PreparedMdoc) (x5chain : X5Chain) (signature : Bytes) (mdoc : Mdoc),
      fromSlice PreparedMdoc bytes = .ok m → m.preparedSig.algorithm = some .ES256 →
      m.complete x5chain signature = .ok mdoc → Accepted x5chain mdoc := by
  intro h
  have hcheck : (PreparedMdoc.Sample.altered.toOption.any fun bytes =>
      (fromSlice PreparedMdoc bytes).toOption.any fun m =>
        PreparedMdoc.Sample.x5chain.toOption.any fun x5chain =>
          (m.complete x5chain PreparedMdoc.Sample.emptySignature).toOption.any fun mdoc =>
            m.preparedSig.algorithm = some .ES256 &&
              !(issuerAuthentication x5chain ⟨some mdoc.namespaces, mdoc.issuerAuth⟩).isOk) =
        true := by
    decide +kernel
  obtain ⟨bytes, -, hcheck⟩ := exists_ok_of_any hcheck
  obtain ⟨m, hm, hcheck⟩ := exists_ok_of_any hcheck
  obtain ⟨x5chain, -, hcheck⟩ := exists_ok_of_any hcheck
  obtain ⟨mdoc, hmdoc, hcheck⟩ := exists_ok_of_any hcheck
  rw [Bool.and_eq_true, decide_eq_true_iff] at hcheck
  obtain ⟨halg, hrefused⟩ := hcheck
  obtain ⟨haccepted, -⟩ := h bytes m x5chain _ mdoc hm halg hmdoc
    ⟨some mdoc.namespaces, mdoc.issuerAuth⟩ rfl
  rw [haccepted] at hrefused
  cases hrefused

end

end Isomdl
