import Isomdl.Cose.Agreement
import Isomdl.Presentation.Disclosure

/-!
# Device authentication of a prepared document (`presentation/device.rs`)

A prepared document is signed, or tagged, over its `DeviceAuthentication` bytes.  The protected
header names the signature algorithm of the device key whatever the authentication type is.

* `deviceAuthVerifies_sign1`       a signature by the device key verifies;
* `not_deviceAuthVerifies_mac0`    a correct tag does not;
* `deviceAuthVerifies_iff_sign1`   for every document of a session.
-/

set_option linter.unusedSectionVars false

namespace Isomdl

open Cbor

namespace Device

/-- a P-256 or a P-384 key -/
def SupportedKey : CoseKey → Prop
  | .EC2 .P256 _ _ => True
  | .EC2 .P384 _ _ => True
  | _ => False

/-- the algorithm of `P256Verifier` and `P384Verifier`, for the curve of a key -/
def VerifierFor (key : CoseKey) (algorithm : Algorithm) : Prop :=
  match key with
  | .EC2 .P256 _ _ => algorithm = .ES256
  | .EC2 .P384 _ _ => algorithm = .ES384
  | _ => False

theorem VerifierFor.signatureAlgorithm {key : CoseKey} {algorithm : Algorithm}
    (h : VerifierFor key algorithm) : key.signatureAlgorithm = some algorithm := by
  cases key with
  | EC2 crv x y =>
    cases crv with
    | P256 =>
      have heq : algorithm = .ES256 := h
      rw [heq]
      rfl
    | P384 =>
      have heq : algorithm = .ES384 := h
      rw [heq]
      rfl
    | _ => cases h
  | OKP crv x => cases h

theorem SupportedKey.signatureAlgorithm_ne_hmac {key : CoseKey} (h : SupportedKey key) :
    key.signatureAlgorithm ≠ some .HMAC_256_256 := by
  cases key with
  | EC2 crv x y => cases crv <;> simp [CoseKey.signatureAlgorithm]
  | OKP crv x => cases h

section
variable [Ciborium] [Coset] {S : Type} [Serialize S]

/-- the authenticator of a finalized document verifies over the detached `DeviceAuthentication`
bytes, whenever it is a valid signature by the device key, or a correct HMAC-SHA-256 tag, over the
payload that the prepared document exposed -/
def DeviceAuthVerifies (sessionTranscript : S) (deviceKey : CoseKey) (d : PreparedDocument) :
    Prop :=
  ∃ payload,
    deviceAuthenticationBytes sessionTranscript d.docType d.deviceNamespaces = some payload ∧
    ∀ authenticator, (d.finalize authenticator).deviceSigned.namespaces = d.deviceNamespaces ∧
      match (d.finalize authenticator).deviceSigned.deviceAuth with
      | .deviceSignature c => ∀ (T : Type) (v : Verifier T), VerifierFor deviceKey v.algorithm →
          v.Accepts d.preparedCose.signaturePayload authenticator →
            verify c v (some payload) none = .success
      | .deviceMac c => ∀ k : HmacSha256Key,
          authenticator = k.tag d.preparedCose.signaturePayload →
            Mac0.verify c k (some payload) none = .success

theorem prepareCose_eq_some {deviceAuthType : DeviceAuthType} {algorithm : Algorithm}
    {payload : Bytes} {cose : PreparedCose}
    (h : prepareCose deviceAuthType algorithm payload = some cose) :
    let header : ProtectedHeader := ⟨none, Header.ofAlgorithm algorithm⟩
    cose = match deviceAuthType with
      | .Sign1 => .Sign1 ⟨⟨false, ⟨header, Header.empty, none, []⟩⟩,
          Coset.sigStructureData .coseSign1 header none [] payload⟩
      | .Mac0 => .Mac0 ⟨⟨false, ⟨header, Header.empty, none, []⟩⟩,
          Coset.macStructureData .coseMac0 header [] payload⟩ := by
  cases deviceAuthType <;> exact (Option.some.inj h).symm

/-- **A valid signature by the device key verifies.** -/
theorem deviceAuthVerifies_sign1 {documents : Documents} {sessionTranscript : S} {docType : String}
    {namespaces : BTreeMap String (List String)} {d : PreparedDocument} {document : Document}
    (hd : prepareDocument documents sessionTranscript .Sign1 docType namespaces = some d)
    (hdocument : documents.toMap[docType]? = some document) :
    DeviceAuthVerifies sessionTranscript document.mso.deviceKeyInfo.deviceKey d := by
  obtain ⟨document', algorithm, deviceNamespaces, payload, cose, hdocument', halgorithm, -, hpayload,
    hcose, rfl⟩ := prepareDocument_eq_some.mp hd
  rw [hdocument] at hdocument'
  cases hdocument'
  have hcose := prepareCose_eq_some hcose
  dsimp only at hcose
  subst hcose
  refine ⟨payload, hpayload, fun authenticator => ⟨rfl, ?_⟩⟩
  intro T v hv haccepts
  have heq : algorithm = v.algorithm :=
    Option.some.inj (halgorithm.symm.trans hv.signatureAlgorithm)
  obtain ⟨s, hs, hok⟩ := haccepts
  refine verify_eq_success.mpr ⟨?_, payload, s, rfl, hs, hok⟩
  show (v.algorithm != algorithm) = false
  rw [heq]
  exact bne_self_eq_false v.algorithm

/-- **A correct tag does not**: the header names the algorithm of a signature. -/
theorem not_deviceAuthVerifies_mac0 {documents : Documents} {sessionTranscript : S}
    {docType : String} {namespaces : BTreeMap String (List String)} {d : PreparedDocument}
    {document : Document}
    (hd : prepareDocument documents sessionTranscript .Mac0 docType namespaces = some d)
    (hdocument : documents.toMap[docType]? = some document)
    (hkey : SupportedKey document.mso.deviceKeyInfo.deviceKey) :
    ¬ DeviceAuthVerifies sessionTranscript document.mso.deviceKeyInfo.deviceKey d := by
  obtain ⟨document', algorithm, deviceNamespaces, payload, cose, hdocument', halgorithm, -, -,
    hcose, rfl⟩ := prepareDocument_eq_some.mp hd
  rw [hdocument] at hdocument'
  cases hdocument'
  have hcose := prepareCose_eq_some hcose
  dsimp only at hcose
  subst hcose
  intro h
  obtain ⟨payload', -, hverifies⟩ := h
  let k : HmacSha256Key := ⟨[]⟩
  have hsuccess := (hverifies (k.tag (Coset.macStructureData .coseMac0
    ⟨none, Header.ofAlgorithm algorithm⟩ [] payload))).2 k rfl
  obtain ⟨hmatch, -⟩ := Mac0.verify_eq_success.mp hsuccess
  have heq : algorithm = .HMAC_256_256 := by
    have hbne : (Algorithm.HMAC_256_256 != algorithm) = false := hmatch
    exact (eq_of_beq (Bool.not_eq_false' .. |>.mp hbne)).symm
  rw [heq] at halgorithm
  exact hkey.signatureAlgorithm_ne_hmac halgorithm

/-- **Device authentication verifies for signatures only.** -/
theorem deviceAuthVerifies_iff_sign1 {documents : Documents} (sessionTranscript : S)
    (deviceAuthType : DeviceAuthType) (requests : RequestedItems) (permitted : PermittedItems)
    (hkeys : ∀ (docType : String) (document : Document), documents.toMap[docType]? = some document →
      SupportedKey document.mso.deviceKeyInfo.deviceKey) {d : PreparedDocument}
    (hd : d ∈ (sessionPrepareResponse documents sessionTranscript deviceAuthType requests
      permitted).preparedDocuments) :
    ∃ document, documents.toMap[d.docType]? = some document ∧
      (DeviceAuthVerifies sessionTranscript document.mso.deviceKeyInfo.deviceKey d ↔
        deviceAuthType = .Sign1) := by
  obtain ⟨namespaces, -, hprepared⟩ := mem_preparedDocuments.mp hd
  obtain ⟨document, hdocument, -, -, -⟩ := prepareDocument_spec hprepared
  refine ⟨document, hdocument, ?_⟩
  cases deviceAuthType with
  | Sign1 => exact ⟨fun _ => rfl, fun _ => deviceAuthVerifies_sign1 hprepared hdocument⟩
  | Mac0 =>
    constructor
    · intro h
      exact absurd h (not_deviceAuthVerifies_mac0 hprepared hdocument (hkeys _ _ hdocument))
    · intro h
      cases h

end

theorem Sample.supportedKeys (docType : String) (document : Document)
    (h : (Sample.documents Sample.coseKey).toMap[docType]? = some document) :
    SupportedKey document.mso.deviceKeyInfo.deviceKey := by
  have hlookup : ((∅ : BTreeMap String Document).insert "org.iso.18013.5.1.mDL" _)[docType]? =
    some document := h
  rw [BTreeMap.getElem?_insert] at hlookup
  split at hlookup
  · cases hlookup
    exact trivial
  · cases hlookup

open scoped Reference in
theorem deviceAuthVerifies_iff_sign1_sample :
    ∃ d ∈ (sessionPrepareResponse (Sample.documents Sample.coseKey) Sample.sessionTranscript .Sign1
        Sample.requests Sample.permitted).preparedDocuments,
      ∃ document, (Sample.documents Sample.coseKey).toMap[d.docType]? = some document ∧
        (DeviceAuthVerifies Sample.sessionTranscript document.mso.deviceKeyInfo.deviceKey d ↔
          DeviceAuthType.Sign1 = .Sign1) := by
  have hlength : (sessionPrepareResponse (Sample.documents Sample.coseKey)
      Sample.sessionTranscript .Sign1 Sample.requests
      Sample.permitted).preparedDocuments.length = 1 := by
    decide +kernel
  obtain ⟨d, hd⟩ := List.length_eq_one_iff.mp hlength
  have hmem := hd ▸ List.mem_singleton_self d
  exact ⟨d, hmem, deviceAuthVerifies_iff_sign1 Sample.sessionTranscript .Sign1 Sample.requests
    Sample.permitted Sample.supportedKeys hmem⟩

open scoped Reference in
/-- The correct tag of a document with a P-256 device key does not verify. -/
theorem mac0_tag_rejected :
    ∃ d ∈ (sessionPrepareResponse (Sample.documents Sample.coseKey) Sample.sessionTranscript .Mac0
        Sample.requests Sample.permitted).preparedDocuments,
      ∃ document, (Sample.documents Sample.coseKey).toMap[d.docType]? = some document ∧
        SupportedKey document.mso.deviceKeyInfo.deviceKey ∧
        ¬ DeviceAuthVerifies Sample.sessionTranscript document.mso.deviceKeyInfo.deviceKey d := by
  have hlength : (sessionPrepareResponse (Sample.documents Sample.coseKey)
      Sample.sessionTranscript .Mac0 Sample.requests
      Sample.permitted).preparedDocuments.length = 1 := by
    decide +kernel
  obtain ⟨d, hd⟩ := List.length_eq_one_iff.mp hlength
  have hmem := hd ▸ List.mem_singleton_self d
  obtain ⟨namespaces, -, hprepared⟩ := mem_preparedDocuments.mp hmem
  obtain ⟨document, hdocument, -, -, -⟩ := prepareDocument_spec hprepared
  have hkey := Sample.supportedKeys _ _ hdocument
  exact ⟨d, hmem, document, hdocument, hkey, not_deviceAuthVerifies_mac0 hprepared hdocument hkey⟩

end Device

end Isomdl
