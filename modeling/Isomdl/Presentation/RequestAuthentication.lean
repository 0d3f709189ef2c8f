import Isomdl.Presentation.Disclosure
import Isomdl.Reference.X509

/-!
# What an authenticated request vouches for

The device reports one verdict for a request, which may hold many document requests.
`ReaderAuthenticated` says what it takes for one of them to be authentic, and
`readerAuthentication_errors` that the device's check of it is exactly that.

* `validateRequest_readerAuthentication`   the verdict is that of the first document request;
* `validateRequest_covers_iff`             so a valid verdict covers the whole request exactly
                                           when the later ones are authentic too;
* `handleDecodedRequest_valid`             a valid verdict comes from `validateRequest`.
-/

namespace Isomdl

open Cbor

namespace Device

section
variable [Ciborium] [Coset] [X509Cert] [P256] [Sha2] [Clock]

/-- the document request carries a signature of its own items request and the session transcript,
under a chain that the trusted readers accept -/
def ReaderAuthenticated (sm : SessionManager) (d : DocRequest) : Prop :=
  ∃ readerAuth x5chainCbor x5chain key payload,
    d.readerAuth = some readerAuth ∧
    x5chainParameter readerAuth.inner.unprotected = some x5chainCbor ∧
    X5Chain.fromCbor x5chainCbor = .ok x5chain ∧
    ValidationRuleset.MdlReaderOneStep.validate x5chain sm.trustedVerifiers = [] ∧
    x5chain.endEntityPublicKeyWithOid Oid.SECP_256_R_1 = .ok key ∧
    readerAuthenticationPayload sm.sessionTranscript d.itemsRequest = .ok payload ∧
    verify readerAuth (p256Verifier key) (some payload) none = .success

theorem readerAuthenticationWith_errors {sm : SessionManager} {itemsRequest : ItemsRequestBytes}
    {readerAuth : MaybeTagged CoseSign1} {x5chain : X5Chain} :
    (readerAuthenticationWith sm itemsRequest readerAuth x5chain).errors = [] ↔
      ∃ key payload, ValidationRuleset.MdlReaderOneStep.validate x5chain sm.trustedVerifiers = [] ∧
        x5chain.endEntityPublicKeyWithOid Oid.SECP_256_R_1 = .ok key ∧
        readerAuthenticationPayload sm.sessionTranscript itemsRequest = .ok payload ∧
        verify readerAuth (p256Verifier key) (some payload) none = .success := by
  unfold readerAuthenticationWith
  cases hkey : x5chain.endEntityPublicKeyWithOid Oid.SECP_256_R_1 with
  | error e => simp
  | ok key =>
    cases hpayload : readerAuthenticationPayload sm.sessionTranscript itemsRequest with
    | error e => simp
    | ok payload =>
      cases hverify : verify readerAuth (p256Verifier key) (some payload) none <;>
        simp [hverify, VerificationResult.intoResult]

/-- **The device finds no error in a document request exactly when it is authentic.** -/
theorem readerAuthentication_errors {sm : SessionManager} {d : DocRequest} :
    (readerAuthentication sm d).errors = [] ↔ ReaderAuthenticated sm d := by
  unfold readerAuthentication ReaderAuthenticated
  cases hauth : d.readerAuth with
  | none => simp
  | some readerAuth =>
    cases hparam : x5chainParameter readerAuth.inner.unprotected with
    | none => simp [hparam]
    | some x5chainCbor =>
      cases hchain : X5Chain.fromCbor x5chainCbor with
      | error e => simp [hparam, hchain]
      | ok x5chain => simp [hparam, hchain, readerAuthenticationWith_errors]

/-! ## the verdict -/

/-- **The verdict on a request is that on its first document request.** -/
theorem validateRequest_readerAuthentication {sm : SessionManager} {request : DeviceRequest} :
    (validateRequest sm request).readerAuthentication = .Valid ↔
      ReaderAuthenticated sm request.docRequests.first := by
  rw [← readerAuthentication_errors]
  show (if (readerAuthentication sm request.docRequests.first).errors.isEmpty then
    AuthenticationStatus.Valid else .Invalid) = .Valid ↔ _
  rw [← List.isEmpty_iff]
  split
  · next h => simp [h]
  · next h => simp [h]

/-- a valid verdict covers the request: every items request that is returned belongs to a document
request that is authentic -/
def Covers (sm : SessionManager) (request : DeviceRequest) (outcome : RequestAuthenticationOutcome) :
    Prop :=
  outcome.readerAuthentication = .Valid →
    List.Forall₂ (fun items d => d.itemsRequest.inner = items ∧ ReaderAuthenticated sm d)
      outcome.itemsRequest request.docRequests.toList

/-- **A valid verdict covers a request exactly when its first document request is not authentic or
all the later ones are.** -/
theorem validateRequest_covers_iff (sm : SessionManager) (request : DeviceRequest) :
    Covers sm request (validateRequest sm request) ↔
      ¬ ReaderAuthenticated sm request.docRequests.first ∨
        ∀ d ∈ request.docRequests.toList.tail, ReaderAuthenticated sm d := by
  have hall : List.Forall₂ (fun items d => d.itemsRequest.inner = items ∧ ReaderAuthenticated sm d)
      (validateRequest sm request).itemsRequest request.docRequests.toList ↔
        ∀ d ∈ request.docRequests.toList, ReaderAuthenticated sm d := by
    show List.Forall₂ _ (request.docRequests.toList.map _) _ ↔ _
    rw [List.forall₂_map_left_iff, List.forall₂_same]
    simp
  rw [Covers, validateRequest_readerAuthentication, hall]
  have hsplit : request.docRequests.toList =
      request.docRequests.first :: request.docRequests.toList.tail :=
    (List.cons_head_tail request.docRequests.nonempty).symm
  generalize request.docRequests.first = first at hsplit
  rw [hsplit, List.tail_cons, List.forall_mem_cons]
  by_cases hfirst : ReaderAuthenticated sm first
  · simp [hfirst]
  · simp [hfirst]

end

section
open scoped Reference

/-- a reader's request for one element of an mDL -/
def Sample.itemsRequest (elementIdentifier : String) : ItemsRequestBytes where
  inner :=
    ⟨"org.iso.18013.5.1.mDL",
      NonEmptyMap.new "org.iso.18013.5.1" (NonEmptyMap.new elementIdentifier false), none⟩
  innerBytes := Ciborium.intoWriter (.map
    [(.text "docType", .text "org.iso.18013.5.1.mDL"),
     (.text "nameSpaces", .map
       [(.text "org.iso.18013.5.1", .map [(.text elementIdentifier, .bool false)])])])

/-- the signature of the request for the family name -/
def Sample.readerAuth : MaybeTagged CoseSign1 where
  tagged := false
  inner :=
    { protectedHeader := ⟨some [0xa1, 0x01, 0x26], Header.ofAlgorithm .ES256⟩
      unprotected := ⟨none, [(.int X5CHAIN_COSE_HEADER_LABEL, .bytes Reference.readerDer)]⟩
      payload := none
      signature :=
        beBytes 32 0x5ffbc8df9e13bb35badd673f908d327b3e53f35a4ff956dd08d279d411e75dd1 ++
        beBytes 32 0xb0185234d650aa61587d3f42b57f8574758fe265ff41563ed0974cd3ee873258 }

def Sample.trustedReaders : TrustAnchorRegistry where
  anchors := (Reference.certificateOfDer Reference.readerCaDer).toList.map (⟨·, .ReaderCa⟩)

/-- a request whose first document request is signed, and whose second one asks for more and is
not -/
def Sample.mixedRequest : DeviceRequest where
  version := "1.0"
  docRequests := (NonEmptyVec.new ⟨itemsRequest "family_name", some readerAuth⟩).push
    ⟨itemsRequest "portrait", none⟩
  readerAuthAll := none
  deviceRequestInfo := none

/-- An unsigned document request after a signed one passes as valid. -/
theorem unsigned_not_covered :
    ¬ ∀ (sm : SessionManager) (request : DeviceRequest),
      Covers sm request (validateRequest sm request) := by
  intro h
  have hvalid : (validateRequest (Sample.sessionManager Sample.trustedReaders)
      Sample.mixedRequest).readerAuthentication = .Valid := by
    decide +kernel
  cases h (Sample.sessionManager Sample.trustedReaders) Sample.mixedRequest hvalid with
  | cons _ hrest =>
    cases hrest with
    | cons hsecond _ =>
      obtain ⟨-, readerAuth, -, -, -, -, hsome, -⟩ := hsecond
      cases hsome

end

section
variable [Ciborium] [Coset] [X509Cert] [P256] [Sha2] [Clock]

/-- **A valid verdict comes from a request that was decrypted, parsed and validated.** -/
theorem handleDecodedRequest_valid [AesGcm] {sm : SessionManager} {sessionData : SessionData}
    (h : (sm.handleDecodedRequest sessionData).1.readerAuthentication = .Valid) :
    ∃ data plaintext request, sessionData.data = some data ∧
      (decryptReaderData sm.skReader data.bytes sm.readerMessageCounter).1 = some plaintext ∧
      parseRequest plaintext = .ok request ∧
      (sm.handleDecodedRequest sessionData).1 =
        validateRequest (sm.handleDecodedRequest sessionData).2 request := by
  obtain ⟨data, status⟩ := sessionData
  unfold SessionManager.handleDecodedRequest at h ⊢
  cases data with
  | none => cases h
  | some data =>
    cases hdec : decryptReaderData sm.skReader data.bytes sm.readerMessageCounter with
    | mk plaintext count =>
      simp only [hdec] at h ⊢
      cases plaintext with
      | none => cases h
      | some plaintext =>
        cases hparse : parseRequest plaintext with
        | error e =>
          simp only [hparse] at h
          cases h
        | ok request =>
          exact ⟨data, plaintext, request, rfl, by rw [hdec], hparse, by simp only [hparse]⟩

end

end Device

end Isomdl
