import Isomdl.Presentation.DeviceAuth
import Isomdl.Presentation.ResponseAgreement

/-!
# What the reader's verdict on the device says

A prepared document exposes a payload to be signed; the reader rebuilds that payload from its own
transcript and the response that it decoded.  The two are the same bytes, so the reader accepts the
device exactly when the signature that was submitted is good for the payload that was exposed.

* `decodes_deviceSigned`      what a decoded document keeps of what the device signed;
* `verdict_iff`               the verdict on one document;
* `deviceVerdicts_iff`        the verdicts on all documents of a response;
* `valid_signed`              a valid verdict in a run: the holder signed in this session.
-/

set_option linter.unusedSectionVars false

namespace Isomdl

open Cbor

/-! ## the device's part, on the wire -/

section
variable [Ciborium] [Coset] [CosetHeader] [FaithfulCiborium] [LawfulCoset]

/-- what a decoded signature or tag keeps -/
inductive DeviceAuthKept : DeviceAuth → DeviceAuth → Prop where
  | deviceSignature {c c' : MaybeTagged CoseSign1} (h : Sign1Kept c c') :
      DeviceAuthKept (.deviceSignature c) (.deviceSignature c')
  | deviceMac {c c' : MaybeTagged CoseMac0} : DeviceAuthKept (.deviceMac c) (.deviceMac c')

/-- what a decoded document keeps of what the device signed -/
structure DeviceSignedKept (d d' : DeviceSigned) : Prop where
  namespaces : d'.namespaces.innerBytes = d.namespaces.innerBytes
  deviceAuth : DeviceAuthKept d.deviceAuth d'.deviceAuth

/-- an enum's variant, written as its name -/
theorem structValue_variant {name : String} {x : Except String Value} {v : Value}
    (h : structValue [(name, some x)] = .ok v) : ∃ u, x = .ok u ∧ v = .map [(.text name, u)] := by
  cases x with
  | error e => cases h
  | ok u =>
    cases h
    exact ⟨u, rfl, rfl⟩

theorem similar_variant {name : String} {u w : Value}
    (h : (Value.map [(.text name, u)]).Similar w) :
    ∃ u', w = .map [(.text name, u')] ∧ u.Similar u' := by
  obtain ⟨ws, rfl, l, u', rest, rfl, hl, hu, hrest⟩ := h
  have hl : l = .text name := hl
  have hrest : rest = [] := hrest
  rw [hl, hrest]
  exact ⟨u', rfl, hu⟩

theorem decodes_deviceAuth : Decodes DeviceAuthKept := by
  intro a v w a' hv hsim hw
  cases a with
  | deviceSignature c =>
    obtain ⟨u, hu, rfl⟩ := structValue_variant hv
    obtain ⟨u', rfl, hu'⟩ := similar_variant hsim
    obtain ⟨c', hc', rfl⟩ := map_eq_ok hw
    exact .deviceSignature (sign1_kept hu hu' hc')
  | deviceMac c =>
    obtain ⟨u, hu, rfl⟩ := structValue_variant hv
    obtain ⟨u', rfl, hu'⟩ := similar_variant hsim
    obtain ⟨c', hc', rfl⟩ := map_eq_ok hw
    exact .deviceMac

theorem decodes_deviceSigned : Decodes DeviceSignedKept := by
  intro d v w d' hv hsim hw
  obtain ⟨fields, hfields, hw⟩ := bind_eq_ok hw
  obtain ⟨namespaces, hnamespaces, hw⟩ := bind_eq_ok hw
  obtain ⟨deviceAuth, hauth, hw⟩ := bind_eq_ok hw
  cases hw
  have hnd : ["nameSpaces", "deviceAuth"].Nodup := by decide
  have hbytes : namespaces.innerBytes = d.namespaces.innerBytes ∧
      fromSlice DeviceNamespaces d.namespaces.innerBytes = .ok namespaces.inner :=
    Fields.required_decodes Decodes.tag24 hv hsim hfields hnd (by simp) hnamespaces
  exact ⟨hbytes.1, Fields.required_decodes decodes_deviceAuth hv hsim hfields hnd (by simp) hauth⟩

/-- **A document keeps what the issuer and what the device signed.** -/
theorem decodes_signedDocument : Decodes fun d d' : DeviceResponse.Document =>
    DocumentKept d d' ∧ DeviceSignedKept d.deviceSigned d'.deviceSigned := by
  intro d v w d' hv hsim hw
  refine ⟨decodes_document hv hsim hw, ?_⟩
  obtain ⟨fields, hfields, hw⟩ := bind_eq_ok hw
  obtain ⟨docType, -, hw⟩ := bind_eq_ok hw
  obtain ⟨issuerSigned, -, hw⟩ := bind_eq_ok hw
  obtain ⟨deviceSigned, hdeviceSigned, hw⟩ := bind_eq_ok hw
  obtain ⟨errors, -, hw⟩ := bind_eq_ok hw
  cases hw
  have hnd : ["docType", "issuerSigned", "deviceSigned", "errors"].Nodup := by decide
  exact Fields.required_decodes decodes_deviceSigned hv hsim hfields hnd (by simp) hdeviceSigned

end

/-! ## what is signed over -/

section
variable [Ciborium]

/-- the payload, as the tagged bytes of the structure that is signed over -/
theorem deviceAuthenticationBytes_eq (sessionTranscript : SessionTranscript180135) (docType : String)
    (deviceNamespaces : DeviceNamespacesBytes) :
    Device.deviceAuthenticationBytes sessionTranscript docType deviceNamespaces =
      (toVec (⟨sessionTranscript, docType, deviceNamespaces⟩ :
        DeviceAuthentication SessionTranscript180135)).toOption.map fun bytes =>
          Ciborium.intoWriter (.tag 24 (.bytes bytes)) := by
  unfold Device.deviceAuthenticationBytes Tag24.new
  dsimp only
  cases toVec (⟨sessionTranscript, docType, deviceNamespaces⟩ :
    DeviceAuthentication SessionTranscript180135) <;> rfl

/-- the payload depends on the transcript's encoding and on the bytes of the namespaces -/
theorem deviceAuthenticationBytes_congr {sessionTranscript sessionTranscript' : SessionTranscript180135}
    (htranscript : toValue sessionTranscript' = toValue sessionTranscript) (docType : String)
    {deviceNamespaces deviceNamespaces' : DeviceNamespacesBytes}
    (hbytes : deviceNamespaces'.innerBytes = deviceNamespaces.innerBytes) :
    Device.deviceAuthenticationBytes sessionTranscript' docType deviceNamespaces' =
      Device.deviceAuthenticationBytes sessionTranscript docType deviceNamespaces := by
  have hcbor : toValue deviceNamespaces' = toValue deviceNamespaces := by
    show Except.ok deviceNamespaces'.toCbor = Except.ok deviceNamespaces.toCbor
    rw [Tag24.toCbor, Tag24.toCbor, hbytes]
  have hvalue : toValue (⟨sessionTranscript', docType, deviceNamespaces'⟩ :
      DeviceAuthentication SessionTranscript180135) =
      toValue (⟨sessionTranscript, docType, deviceNamespaces⟩ :
        DeviceAuthentication SessionTranscript180135) := by
    show (toValue sessionTranscript' >>= fun transcript =>
      toValue deviceNamespaces' >>= fun namespaces => _) = _
    rw [htranscript, hcbor]
    rfl
  rw [deviceAuthenticationBytes_eq, deviceAuthenticationBytes_eq, toVec, toVec, hvalue]

end

/-! ## the reader's check -/

section
variable [Ciborium] [Coset] [Rfc3339] [X509Cert] [P256] [Sha2]

/-- the P-256 key that the security object in an issuer's signature names for the device -/
def DeclaresKey (issuerAuth : MaybeTagged CoseSign1) (key : PublicKey) : Prop :=
  ∃ msoBytes mso point, issuerAuth.inner.payload = some msoBytes ∧
    fromSlice (Tag24 Mso) msoBytes = .ok mso ∧
    (∀ crv x, mso.inner.deviceKeyInfo.deviceKey ≠ .OKP crv x) ∧
    mso.inner.deviceKeyInfo.deviceKey.toSec1Point = .ok point ∧
    P256.fromSec1Point point = some key

theorem declaresKey_iff {issuerAuth : MaybeTagged CoseSign1} {msoBytes : Bytes} {mso : Tag24 Mso}
    {crv : EC2Curve} {x : Bytes} {y : EC2Y} {key : PublicKey}
    (hpayload : issuerAuth.inner.payload = some msoBytes)
    (hmso : fromSlice (Tag24 Mso) msoBytes = .ok mso)
    (hkey : mso.inner.deviceKeyInfo.deviceKey = .EC2 crv x y) :
    DeclaresKey issuerAuth key ↔ ∃ point, (CoseKey.EC2 crv x y).toSec1Point = .ok point ∧
      P256.fromSec1Point point = some key := by
  constructor
  · intro h
    obtain ⟨msoBytes', mso', point, hpayload', hmso', -, hpoint, hfrom⟩ := h
    rw [hpayload] at hpayload'
    cases hpayload'
    rw [hmso] at hmso'
    cases hmso'
    rw [hkey] at hpoint
    exact ⟨point, hpoint, hfrom⟩
  · intro h
    obtain ⟨point, hpoint, hfrom⟩ := h
    refine ⟨msoBytes, mso, point, hpayload, hmso, ?_, by rw [hkey]; exact hpoint, hfrom⟩
    intro crv' x' h'
    rw [hkey] at h'
    cases h'

theorem verifyDeviceAuthenticationPayload_eq_ok {document : DeviceResponse.Document}
    {cborPayload : Bytes} :
    verifyDeviceAuthenticationPayload document cborPayload = .ok () ↔
      ∃ key c, DeclaresKey document.issuerSigned.issuerAuth key ∧
        document.deviceSigned.deviceAuth = .deviceSignature c ∧
        verify c (p256Verifier key) (some cborPayload) none = .success := by
  constructor
  · intro h
    unfold verifyDeviceAuthenticationPayload at h
    cases hpayload : document.issuerSigned.issuerAuth.inner.payload with
    | none =>
      rw [hpayload] at h
      cases h
    | some msoBytes =>
      simp only [hpayload] at h
      obtain ⟨mso, hmso, h⟩ := bind_eq_ok h
      have hmso := mapError_eq_ok hmso
      cases hkey : mso.inner.deviceKeyInfo.deviceKey with
      | OKP crv x =>
        rw [hkey] at h
        cases h
      | EC2 crv x y =>
        simp only [hkey] at h
        obtain ⟨point, hpoint, h⟩ := bind_eq_ok h
        have hpoint := mapError_eq_ok hpoint
        cases hfrom : P256.fromSec1Point point with
        | none =>
          rw [hfrom] at h
          cases h
        | some key =>
          simp only [hfrom] at h
          cases hauth : document.deviceSigned.deviceAuth with
          | deviceMac c =>
            rw [hauth] at h
            cases h
          | deviceSignature c =>
            simp only [hauth] at h
            refine ⟨key, c, (declaresKey_iff hpayload hmso hkey).mpr ⟨point, hpoint, hfrom⟩, rfl, ?_⟩
            cases hverify : verify c (p256Verifier key) (some cborPayload) none with
            | success => rfl
            | failure e =>
              rw [hverify] at h
              cases h
            | error e =>
              rw [hverify] at h
              cases h
  · intro h
    obtain ⟨key, c, ⟨msoBytes, mso, point, hpayload, hmso, hnot, hpoint, hfrom⟩, hauth, hverify⟩ := h
    unfold verifyDeviceAuthenticationPayload
    simp only [hpayload, hmso, Except.mapError, ok_bind]
    cases hkey : mso.inner.deviceKeyInfo.deviceKey with
    | OKP crv x => exact absurd hkey (hnot crv x)
    | EC2 crv x y =>
      rw [hkey] at hpoint
      simp only [hpoint, ok_bind, hfrom, hauth, hverify]

theorem deviceAuthentication_eq_ok {document : DeviceResponse.Document}
    {sessionTranscript : SessionTranscript180135} :
    deviceAuthentication document sessionTranscript = .ok () ↔
      ∃ payload, Device.deviceAuthenticationBytes sessionTranscript document.docType
        document.deviceSigned.namespaces = some payload ∧
        verifyDeviceAuthenticationPayload document payload = .ok () := by
  unfold deviceAuthentication Device.deviceAuthenticationBytes
  dsimp only
  cases htag : Tag24.new (⟨sessionTranscript, document.docType, document.deviceSigned.namespaces⟩ :
      DeviceAuthentication SessionTranscript180135) with
  | error e =>
    constructor
    · intro h
      cases h
    · intro h
      obtain ⟨payload, hpayload, -⟩ := h
      cases hpayload
  | ok t =>
    have hvec := Tag24.toVec_eq t
    constructor
    · intro h
      have hverify : ((toVec t).mapError (fun _ => Authentication.Error.cborDecodingError) >>=
        fun payload => verifyDeviceAuthenticationPayload document payload) = .ok () := h
      rw [hvec] at hverify
      refine ⟨_, ?_, hverify⟩
      show (toVec t).toOption = _
      rw [hvec]
      rfl
    · intro h
      obtain ⟨payload, hpayload, hverify⟩ := h
      have hpayload : (toVec t).toOption = some payload := hpayload
      rw [hvec] at hpayload
      cases hpayload
      show ((toVec t).mapError (fun _ => Authentication.Error.cborDecodingError) >>=
        fun payload => verifyDeviceAuthenticationPayload document payload) = _
      rw [hvec]
      exact hverify

end

namespace Device

section
variable [Ciborium] [Coset] [CosetHeader] [FaithfulCiborium] [LawfulCoset] [Rfc3339] [X509Cert]
  [P256] [Sha2]

/-- the signature is one that a reader is to accept for a prepared document: it is a signature, the
held document has a P-256 device key, and the key that its issuer declared verifies the signature
over the payload that was exposed -/
structure Authentic (documents : Documents) (deviceAuthType : DeviceAuthType) (d : PreparedDocument)
    (signature : Bytes) : Prop where
  isSign1 : deviceAuthType = .Sign1
  accepts : ∃ document key, documents.toMap[d.docType]? = some document ∧
    document.mso.deviceKeyInfo.deviceKey.signatureAlgorithm = some .ES256 ∧
    DeclaresKey document.issuerAuth key ∧
    (p256Verifier key).Accepts d.preparedCose.signaturePayload signature

theorem ofAlgorithm_alg {algorithm : Algorithm} (h : algorithm.Registered) :
    (Header.ofAlgorithm algorithm).alg = none ∨
      ∃ a : Algorithm, a.Registered ∧ (Header.ofAlgorithm algorithm).alg = some (.assigned a) :=
  .inr ⟨algorithm, h, rfl⟩

theorem ofAlgorithm_rest (algorithm : Algorithm) :
    ∀ e ∈ (Header.ofAlgorithm algorithm).rest, e.1 ≠ .int 1 :=
  fun _ he => absurd he List.not_mem_nil

/-- the header that names the algorithm of a device key -/
def algorithmHeader (algorithm : Algorithm) (h : algorithm.Registered) : BuiltHeader where
  header := Header.ofAlgorithm algorithm
  alg := ofAlgorithm_alg h
  rest := ofAlgorithm_rest algorithm

theorem signatureAlgorithm_registered {key : CoseKey} {algorithm : Algorithm}
    (h : key.signatureAlgorithm = some algorithm) : algorithm.Registered := by
  cases key with
  | EC2 crv x y => cases crv <;> cases h <;> trivial
  | OKP crv x => cases crv <;> cases h <;> trivial

/-- **The verdict on one document.**  The reader accepts what it decoded exactly when the signature
is good for the payload that the prepared document exposed. -/
theorem verdict_iff {documents : Documents} {sessionTranscript : SessionTranscript180135}
    {deviceAuthType : DeviceAuthType} {docType : String}
    {namespaces : BTreeMap String (List String)} {d : PreparedDocument}
    (hd : prepareDocument documents sessionTranscript deviceAuthType docType namespaces = some d)
    {signature : Bytes} {decoded : DeviceResponse.Document}
    (hkept : DocumentKept (d.finalize signature) decoded)
    (hsigned : DeviceSignedKept (d.finalize signature).deviceSigned decoded.deviceSigned)
    {readerTranscript : SessionTranscript180135}
    (htranscript : toValue readerTranscript = toValue sessionTranscript) :
    deviceAuthentication decoded readerTranscript = .ok () ↔
      Authentic documents deviceAuthType d signature := by
  obtain ⟨document, algorithm, deviceNamespaces, payload, cose, hdocument, halgorithm, -, hpayload,
    hcose, rfl⟩ := prepareDocument_eq_some.mp hd
  have htype : decoded.docType = docType := hkept.docType
  have hissuer : decoded.issuerSigned.issuerAuth.inner.payload = document.issuerAuth.inner.payload :=
    hkept.issuerAuth.payload
  have hdeclares (key : PublicKey) :
      DeclaresKey decoded.issuerSigned.issuerAuth key ↔ DeclaresKey document.issuerAuth key := by
    unfold DeclaresKey
    rw [hissuer]
  have hbytes : decoded.deviceSigned.namespaces.innerBytes = deviceNamespaces.innerBytes :=
    hsigned.namespaces
  rw [deviceAuthentication_eq_ok, htype, deviceAuthenticationBytes_congr htranscript docType hbytes,
    hpayload]
  have hauth := hsigned.deviceAuth
  generalize hdecoded : decoded.deviceSigned.deviceAuth = deviceAuth at hauth
  cases deviceAuthType with
  | Mac0 =>
    have hcose := prepareCose_eq_some hcose
    dsimp only at hcose
    subst hcose
    cases hauth
    refine ⟨fun h => ?_, fun h => by cases h.isSign1⟩
    obtain ⟨payload', -, hverify⟩ := h
    obtain ⟨key, c, -, hsignature, -⟩ := verifyDeviceAuthenticationPayload_eq_ok.mp hverify
    rw [hdecoded] at hsignature
    cases hsignature
  | Sign1 =>
    have hcose := prepareCose_eq_some hcose
    dsimp only at hcose
    subst hcose
    cases hauth with
    | deviceSignature hsign1 =>
      have hregistered := signatureAlgorithm_registered halgorithm
      have hheader := hsign1.protectedHeader (algorithmHeader algorithm hregistered) rfl
      have hverify (key : PublicKey) : verify _ (p256Verifier key) (some payload) none =
          verify _ (p256Verifier key) (some payload) none :=
        verify_kept hsign1.payload hsign1.signature hheader
      constructor
      · intro h
        obtain ⟨payload', hpayload', hok⟩ := h
        cases hpayload'
        obtain ⟨key, c, hkey, hsignature, hsuccess⟩ := verifyDeviceAuthenticationPayload_eq_ok.mp hok
        rw [hdecoded] at hsignature
        cases hsignature
        rw [hverify key] at hsuccess
        obtain ⟨hmismatch, payload', s, hone, hs, haccepts⟩ := verify_eq_success.mp hsuccess
        cases hone
        have halg : algorithm = .ES256 := by
          have hbne : (Algorithm.ES256 != algorithm) = false := hmismatch
          exact (eq_of_beq (Bool.not_eq_false' .. |>.mp hbne)).symm
        rw [halg] at halgorithm
        exact ⟨rfl, document, key, hdocument, halgorithm, (hdeclares key).mp hkey, s, hs, haccepts⟩
      · intro h
        obtain ⟨-, document', key, hdocument', halg, hkey, s, hs, haccepts⟩ := h
        have hdocument' : documents.toMap[docType]? = some document' := hdocument'
        rw [hdocument] at hdocument'
        cases hdocument'
        rw [halgorithm] at halg
        cases halg
        refine ⟨payload, rfl, verifyDeviceAuthenticationPayload_eq_ok.mpr
          ⟨key, _, (hdeclares key).mpr hkey, hdecoded, ?_⟩⟩
        rw [hverify key]
        exact verify_eq_success.mpr ⟨rfl, payload, s, rfl, hs, haccepts⟩

/-- **The verdicts on a response.**  Whatever is held, requested and permitted, and whatever is
submitted: the reader that decodes the completed response gets the documents that were prepared, and
accepts the device of each exactly when the signature that was submitted for it is good for the
payload that it exposed. -/
theorem deviceVerdicts_iff {documents : Documents} {sessionTranscript : SessionTranscript180135}
    {deviceAuthType : DeviceAuthType} {requests : RequestedItems} {permitted : PermittedItems}
    {signatures : List Bytes} {bytes : Bytes} {response : DeviceResponse}
    {readerTranscript : SessionTranscript180135}
    (hcomplete : ((sessionPrepareResponse documents sessionTranscript deviceAuthType requests
      permitted).signedBy signatures).isComplete = true)
    (hbytes : toVec ((sessionPrepareResponse documents sessionTranscript deviceAuthType requests
      permitted).signedBy signatures).finalizeResponse = .ok bytes)
    (hread : fromSlice DeviceResponse bytes = .ok response)
    (htranscript : toValue readerTranscript = toValue sessionTranscript) :
    List.Forall₂ (fun (e : PreparedDocument × Bytes) decoded =>
        decoded.docType = e.1.docType ∧
        (deviceAuthentication decoded readerTranscript = .ok () ↔
          Authentic documents deviceAuthType e.1 e.2))
      ((sessionPrepareResponse documents sessionTranscript deviceAuthType requests
        permitted).pairing signatures) response.documentList := by
  have hkept := decodes_signedDocument.documentList.fromSlice hbytes hread
  rw [PreparedDeviceResponse.documentList_finalizeResponse hcomplete] at hkept
  have hkept := List.forall₂_map_left_iff.mp hkept
  have hprepared : ∀ e ∈ (sessionPrepareResponse documents sessionTranscript deviceAuthType requests
      permitted).pairing signatures, ∃ namespaces,
        prepareDocument documents sessionTranscript deviceAuthType e.1.docType namespaces =
          some e.1 := by
    intro e he
    have hfst := List.mem_reverse.mp (List.of_mem_zip he).1
    obtain ⟨namespaces, -, hprepared⟩ := mem_preparedDocuments.mp hfst
    exact ⟨namespaces, hprepared⟩
  refine ((List.forall₂_and_left _ _).mpr ⟨hprepared, hkept⟩).imp ?_
  intro e decoded h
  obtain ⟨⟨namespaces, hprepared⟩, hdocument, hsigned⟩ := h
  exact ⟨hdocument.docType, verdict_iff hprepared hdocument hsigned htranscript⟩

/-- the call of `prepare_response` at position `n` prepared this document, and this signature was
submitted for it before the next such call -/
def SubmittedFor (sm : SessionManager) (ops : List Operation) (n : ℕ) (d : PreparedDocument)
    (signature : Bytes) : Prop :=
  ∃ requests permitted after rest,
    ops.drop n = .prepareResponse requests permitted :: (after ++ rest) ∧
    (∀ op ∈ after, ¬ op.Prepares) ∧
    (d, signature) ∈ (sm.prepares requests permitted).pairing (submitted after)

/-- **The verdict on a document of an answer** is that on the signature submitted for it, after the
call that is answered. -/
theorem AnswersCall.verdict {sm : SessionManager} {ops : List Operation} {n : ℕ} {plaintext : Bytes}
    (h : AnswersCall sm ops n plaintext) {response : DeviceResponse}
    (hread : fromSlice DeviceResponse plaintext = .ok response)
    {readerTranscript : SessionTranscript180135}
    (htranscript : toValue readerTranscript = toValue sm.sessionTranscript)
    {decoded : DeviceResponse.Document} (hdecoded : decoded ∈ response.documentList) :
    ∃ d signature, SubmittedFor sm ops n d signature ∧ d.docType = decoded.docType ∧
      (deviceAuthentication decoded readerTranscript = .ok () ↔
        Authentic sm.documents sm.deviceAuthType d signature) := by
  obtain ⟨requests, permitted, after, rest, hdrop, hafter, hcomplete, hbytes, -⟩ := h
  have hall := deviceVerdicts_iff hcomplete hbytes hread htranscript
  obtain ⟨i, hi, rfl⟩ := List.getElem_of_mem hdecoded
  have hi' := hall.length_eq ▸ hi
  have hdoc := hall.get hi' hi
  rw [List.get_eq_getElem, List.get_eq_getElem] at hdoc
  exact ⟨_, _, ⟨requests, permitted, after, rest, hdrop, hafter, List.getElem_mem hi'⟩,
    hdoc.1.symm, hdoc.2⟩

end

end Device

/-! ## in a run -/

namespace Reader

section
variable [Ciborium] [Coset] [Rfc3339] [X509Cert] [P256] [Sha2] [Clock] [AesGcm]

/-- what a reader session is opened with, and keeps -/
def SessionManager.fixed (sm : SessionManager) : SessionTranscript180135 × TrustAnchorRegistry :=
  (sm.sessionTranscript, sm.trustAnchorRegistry)

theorem SessionManager.decryptResponse_fixed (sm : SessionManager) (response : Bytes) :
    (sm.decryptResponse response).2.fixed = sm.fixed := by
  unfold decryptResponse
  cases fromSlice SessionData response with
  | error e => rfl
  | ok sessionData =>
    dsimp only
    cases sessionData.data with
    | none => rfl
    | some data =>
      dsimp only
      cases decryptDeviceData sm.skDevice data.bytes sm.deviceMessageCounter with
      | mk plaintext count => cases plaintext <;> rfl

theorem SessionManager.buildRequest_fixed (sm : SessionManager) (namespaces : RequestNamespaces) :
    (sm.buildRequest namespaces).2.fixed = sm.fixed := by
  unfold buildRequest
  cases deviceRequest namespaces with
  | error e => rfl
  | ok request =>
    dsimp only
    cases toVec request with
    | error e => rfl
    | ok bytes =>
      dsimp only
      cases encryptReaderData sm.skReader bytes sm.readerMessageCounter with
      | mk sealing count => cases sealing <;> rfl

/-- **A reader session keeps its transcript and its trust anchors.** -/
theorem SessionManager.step_fixed {sm : SessionManager} {op : Operation}
    {e : Effect SessionManager} (h : sm.step op = some e) : e.sm.fixed = sm.fixed := by
  cases op with
  | buildRequest namespaces =>
    cases h
    exact sm.buildRequest_fixed namespaces
  | newRequest namespaces =>
    cases h
    have hbuilt := sm.buildRequest_fixed namespaces
    show (sm.newRequest namespaces).sm.fixed = _
    unfold newRequest
    generalize sm.buildRequest namespaces = built at hbuilt ⊢
    obtain ⟨result, sm'⟩ := built
    cases result <;> exact hbuilt
  | decryptResponse response =>
    cases h
    exact sm.decryptResponse_fixed response
  | handleResponse response =>
    obtain ⟨handled, hhandled, rfl⟩ := Option.map_eq_some_iff.mp h
    have hdecrypted := sm.decryptResponse_fixed response
    unfold handleResponse at hhandled
    generalize sm.decryptResponse response = decrypted at hhandled hdecrypted
    obtain ⟨result, sm'⟩ := decrypted
    cases result with
    | error e =>
      cases hhandled
      exact hdecrypted
    | ok response =>
      dsimp only at hhandled
      cases hparse : parse response with
      | none =>
        rw [hparse] at hhandled
        cases hhandled
      | some parsed =>
        rw [hparse] at hhandled
        cases parsed <;> cases hhandled <;> exact hdecrypted

/-- the verdict on the device, of the whole validation -/
theorem validateResponse_deviceAuthentication {sessionTranscript : SessionTranscript180135}
    {trustAnchorRegistry : TrustAnchorRegistry} {x5chain : X5Chain}
    {document : DeviceResponse.Document} {namespaces : BTreeMap String Json} :
    (validateResponse sessionTranscript trustAnchorRegistry x5chain document
      namespaces).deviceAuthentication = .Valid ↔
      deviceAuthentication document sessionTranscript = .ok () := by
  unfold validateResponse validateIssuer validateDevice
  cases deviceAuthentication document sessionTranscript with
  | ok u =>
    refine ⟨fun _ => rfl, fun _ => ?_⟩
    dsimp only
    split
    · split <;> rfl
    · rfl
  | error e =>
    refine ⟨fun h => ?_, fun h => by cases h⟩
    dsimp only at h
    split at h
    · split at h <;> cases h
    · cases h

end

end Reader

namespace System

section
variable [LawfulCiborium] [FaithfulCiborium] [Coset] [CosetHeader] [LawfulCoset] [Rfc3339]
  [X509Cert] [P256] [Sha2] [Clock]

theorem step_readerFixed {sealWith : SessionKey → Nonce → Bytes → Option Bytes}
    {s t : System} {a : Action} (h : s.step (idealAead sealWith) a = some t) :
    t.reader.fixed = s.reader.fixed := by
  let _ := idealAead sealWith s.log
  cases a with
  | reader op =>
    obtain ⟨e, he, rfl⟩ := Option.map_eq_some_iff.mp h
    exact Reader.SessionManager.step_fixed he
  | device op =>
    obtain ⟨e, he, rfl⟩ := Option.map_eq_some_iff.mp h
    rfl

theorem recorded_readerFixed (sealWith : SessionKey → Nonce → Bytes → Option Bytes) {p : Pairing}
    (hidle : p.device.Idle) :
    Run.Recorded (System.step (idealAead sealWith)) (System.start p.reader p.device) fun as s =>
      Recorded p as s ∧ s.reader.fixed = p.reader.fixed :=
  Run.Recorded.of_invariant ⟨.start hidle, rfl⟩ fun _ _ _ _ h hst =>
    ⟨h.1.step hst, (step_readerFixed hst).trans h.2⟩

/-- **A valid verdict is the holder's signature.**  In every run of two sessions that share their
keys and whose transcripts encode alike, with the ideal AEAD and whatever bytes arrive: a message
that the reader is handed is rejected, or its plaintext is the answer to a call of
`prepare_response`, which prepared an mDL.  The verdict on the device is then valid exactly when the
signature that was submitted for this mDL, after this call, is good for the payload that it
exposed. -/
theorem valid_signed (sealWith : SessionKey → Nonce → Bytes → Option Bytes) {p : Pairing}
    (hidle : p.device.Idle)
    (htranscript : toValue p.reader.sessionTranscript = toValue p.device.sessionTranscript) :
    Run.Recorded (System.step (idealAead sealWith)) (System.start p.reader p.device) fun as s =>
      letI := idealAead sealWith s.log
      ∀ message handled, s.reader.handleResponse message = some handled →
        (∃ kind e, handled.1 = .error kind e) ∨ ∃ n plaintext d signature,
          s.reader.opened (carriedCiphertext message) = some plaintext ∧
          Device.AnswersCall p.device (deviceOperations as) n plaintext ∧
          Device.SubmittedFor p.device (deviceOperations as) n d signature ∧
          d.docType = Reader.MDL_DOC_TYPE ∧
          (handled.1.deviceAuthentication = .Valid ↔
            Device.Authentic p.device.documents p.device.deviceAuthType d signature) := by
  refine (recorded_readerFixed sealWith hidle).mono fun as s h => ?_
  obtain ⟨h, hreader⟩ := h
  let _ := idealAead sealWith s.log
  intro message handled hhandled
  refine (h.handled hhandled).imp_right fun hanswer => ?_
  obtain ⟨n, plaintext, response, document, x5chain, namespaces, hopened, hanswers, hread, -,
    hdocument, htype, hvalid⟩ := hanswer
  have hsame : toValue (s.reader.decryptResponse message).2.sessionTranscript =
      toValue p.device.sessionTranscript := by
    have hfixed := (s.reader.decryptResponse_fixed message).trans hreader
    have hkeeps : (s.reader.decryptResponse message).2.sessionTranscript =
        p.reader.sessionTranscript := congrArg Prod.fst hfixed
    rw [hkeeps, htranscript]
  obtain ⟨d, signature, hsubmitted, hdocType, hiff⟩ := hanswers.verdict hread hsame hdocument
  refine ⟨n, plaintext, d, signature, hopened, hanswers, hsubmitted, hdocType.trans htype, ?_⟩
  rw [hvalid, Reader.validateResponse_deviceAuthentication]
  exact hiff

end

section
open scoped Reference

/-- The holder signs, and the reader finds the device valid. -/
theorem valid_signed_sample :
    ∃ s message handled, Sample.after Sample.pairing Sample.answering = some s ∧
      letI := idealAead Sample.sealWith s.log
      s.reader.handleResponse message = some handled ∧
        handled.1.deviceAuthentication = .Valid ∧ ∃ n plaintext d signature,
          s.reader.opened (carriedCiphertext message) = some plaintext ∧
          Device.AnswersCall Sample.pairing.device (deviceOperations Sample.answering) n
            plaintext ∧
          Device.SubmittedFor Sample.pairing.device (deviceOperations Sample.answering) n d
            signature ∧
          d.docType = Reader.MDL_DOC_TYPE ∧
          Device.Authentic Sample.pairing.device.documents Sample.pairing.device.deviceAuthType d
            signature := by
  have hcheck : (Sample.outcomeIn Sample.pairing).any
      (fun outcome => decide (outcome.deviceAuthentication = .Valid)) = true := by
    decide +kernel
  obtain ⟨s, message, handled, hs, hhandled, hcheck⟩ := Sample.exists_handled hcheck
  have hvalid : handled.1.deviceAuthentication = .Valid := of_decide_eq_true hcheck
  refine ⟨s, message, handled, hs, hhandled, hvalid, ?_⟩
  have htranscript : Sample.pairing.reader.sessionTranscript =
      Sample.pairing.device.sessionTranscript := rfl
  have hverdict := valid_signed Sample.sealWith (p := Sample.pairing) (Sample.holding_idle _)
    (congrArg toValue htranscript) Sample.answering s hs message handled hhandled
  rcases hverdict with ⟨kind, e, herror⟩ | ⟨n, plaintext, d, signature, hopened, hanswers,
    hsubmitted, htype, hiff⟩
  · rw [herror] at hvalid
    cases hvalid
  · exact ⟨n, plaintext, d, signature, hopened, hanswers, hsubmitted, htype, hiff.mp hvalid⟩

end

end System

end Isomdl
