import Isomdl.Presentation.Reencoding

/-!
# The documented signing loop (`presentation/device.rs`)

`while let Some(payload) = get_next_signature_payload() { submit_next_signature(sign(payload)) }`
signs one document in each turn, and only the last signature makes the response ready.  A loop
without a document ends where it began.

* `signingLoop_eq`              where the loop ends;
* `completes_iff`               when it ends with the response encrypted;
* `itemsRead_finishedResponse`  the items that the response returns;
* `signingLoop_completes_iff`   when the loop completes, in terms of what is held and asked for.
-/

set_option linter.unusedSectionVars false

namespace Isomdl

open Cbor

namespace Device

section
variable [Ciborium] [Coset] [AesGcm]

/-- `while let Some(payload) = get_next_signature_payload() { submit_next_signature(sign(payload)) }`
from turn `turn` on, with what the signer answers in each turn; `none` when a call panics or the
fuel runs out -/
def signingLoop (sign : Nat → Uuid × Bytes → Bytes) :
    Nat → Nat → SessionManager → Option SessionManager
  | _, 0, _ => none
  | turn, fuel + 1, sm =>
    match sm.getNextSignaturePayload with
    | none => some sm
    | some payload =>
      (sm.call (.submitNextSignature (sign turn payload))).bind (signingLoop sign (turn + 1) fuel)

/-- the signatures that the signer gives for documents, from turn `turn` on -/
def signaturesFrom (sign : Nat → Uuid × Bytes → Bytes) : Nat → List PreparedDocument → List Bytes
  | _, [] => []
  | turn, d :: ds =>
    sign turn (d.id, d.preparedCose.signaturePayload) :: signaturesFrom sign (turn + 1) ds

theorem length_signaturesFrom (sign : Nat → Uuid × Bytes → Bytes) (turn : Nat)
    (ds : List PreparedDocument) : (signaturesFrom sign turn ds).length = ds.length := by
  induction ds generalizing turn with
  | nil => rfl
  | cons d ds ih => exact congrArg (· + 1) (ih (turn + 1))

/-- the response whose documents the signer has signed -/
def finishedResponse (sign : Nat → Uuid × Bytes → Bytes) (p : PreparedDeviceResponse) :
    DeviceResponse :=
  (p.signedBy (signaturesFrom sign 0 p.preparedDocuments.reverse)).finalizeResponse

theorem signingLoop_idle {sm : SessionManager} (h : sm.Idle)
    (sign : Nat → Uuid × Bytes → Bytes) (turn fuel : Nat) :
    signingLoop sign turn (fuel + 1) sm = some sm := by
  have hnone : sm.getNextSignaturePayload = none := by
    unfold SessionManager.getNextSignaturePayload
    cases hstate : sm.state with
    | Signing p => exact absurd hstate (h p)
    | AwaitingRequest => rfl
    | ReadyToRespond r => rfl
  rw [signingLoop, hnone]

/-- the loop ends with the last signature -/
theorem signingLoop_encryptResponse (sign : Nat → Uuid × Bytes → Bytes) (turn : Nat) {fuel : Nat}
    (hfuel : 0 < fuel) (sm : SessionManager) (response : DeviceResponse) :
    ((SessionManager.encryptResponse { sm with state := .AwaitingRequest } response).map
        (·.sm)).bind (signingLoop sign turn fuel) =
      (SessionManager.encryptResponse { sm with state := .AwaitingRequest } response).map (·.sm) := by
  cases hs : SessionManager.encryptResponse { sm with state := .AwaitingRequest } response with
  | none => rfl
  | some s =>
    have hidle : s.sm.Idle := SessionManager.encryptResponse_idle (fun p heq => by cases heq) hs
    obtain ⟨fuel, rfl⟩ := Nat.exists_eq_succ_of_ne_zero (by omega : fuel ≠ 0)
    exact signingLoop_idle hidle sign turn fuel

/-- **Where the documented loop ends**: where it began when there is nothing to sign, and
otherwise with the finished response encrypted. -/
theorem signingLoop_eq (sign : Nat → Uuid × Bytes → Bytes) (turn : Nat) {fuel : Nat}
    (sm : SessionManager) {p : PreparedDeviceResponse} (hfuel : p.preparedDocuments.length < fuel) :
    signingLoop sign turn fuel (sm.signing p) =
      if p.preparedDocuments = [] then some (sm.signing p)
      else
        (SessionManager.encryptResponse { sm with state := .AwaitingRequest }
          (p.signedBy (signaturesFrom sign turn p.preparedDocuments.reverse)).finalizeResponse).map
          (·.sm) := by
  induction fuel generalizing p turn with
  | zero => omega
  | succ fuel ih =>
    have hget : (sm.signing p).getNextSignaturePayload = p.getNextSignaturePayload := rfl
    cases List.eq_nil_or_concat p.preparedDocuments with
    | inl h =>
      rw [signingLoop, hget, PreparedDeviceResponse.getNextSignaturePayload_eq_none.mpr h, if_pos h]
    | inr h =>
      obtain ⟨rest, d, h⟩ := h
      rw [List.concat_eq_append] at h
      have hne : p.preparedDocuments ≠ [] := by
        rw [h]
        exact List.append_ne_nil_of_right_ne_nil rest (List.cons_ne_nil d [])
      have hpayload := PreparedDeviceResponse.getNextSignaturePayload_eq_some.mpr
        ⟨rest, d, h, rfl, rfl⟩
      have hsignatures : signaturesFrom sign turn p.preparedDocuments.reverse =
          sign turn (d.id, d.preparedCose.signaturePayload) ::
            signaturesFrom sign (turn + 1) rest.reverse := by
        rw [h, List.reverse_append, List.reverse_singleton, List.singleton_append]
        rfl
      have hrest := PreparedDeviceResponse.submitNextSignature_append h
        (sign turn (d.id, d.preparedCose.signaturePayload))
      have hprepared : (p.submitNextSignature
          (sign turn (d.id, d.preparedCose.signaturePayload))).preparedDocuments = rest := by
        rw [hrest]
      rw [signingLoop, hget, hpayload, if_neg hne, hsignatures, PreparedDeviceResponse.signedBy_cons]
      show (((sm.signing p).call (.submitNextSignature
        (sign turn (d.id, d.preparedCose.signaturePayload)))).bind
          (signingLoop sign (turn + 1) fuel)) = _
      rw [SessionManager.call_signing]
      have hlen : rest.length < fuel := by
        rw [h, List.length_append, List.length_singleton] at hfuel
        omega
      generalize p.submitNextSignature (sign turn (d.id, d.preparedCose.signaturePayload)) = q
        at hprepared ⊢
      cases rest with
      | nil =>
        rw [if_pos (PreparedDeviceResponse.isComplete_iff.mpr hprepared)]
        show _ = ((SessionManager.encryptResponse { sm with state := .AwaitingRequest }
          (q.signedBy []).finalizeResponse).map (·.sm))
        rw [PreparedDeviceResponse.signedBy_nil]
        exact signingLoop_encryptResponse sign (turn + 1) (by omega) sm q.finalizeResponse
      | cons d' rest =>
        have hq : q.preparedDocuments ≠ [] := by
          rw [hprepared]
          exact List.cons_ne_nil d' rest
        rw [if_neg fun hc => hq (PreparedDeviceResponse.isComplete_iff.mp hc)]
        show signingLoop sign (turn + 1) fuel (sm.signing q) = _
        rw [ih (turn + 1) (by rw [hprepared]; exact hlen), if_neg hq, hprepared]

theorem signingLoop_mono {sign : Nat → Uuid × Bytes → Bytes} {turn fuel : Nat}
    {sm sm' : SessionManager} (h : signingLoop sign turn fuel sm = some sm') (more : Nat) :
    signingLoop sign turn (fuel + more) sm = some sm' := by
  induction fuel generalizing turn sm with
  | zero => cases h
  | succ fuel ih =>
    rw [Nat.add_right_comm]
    rw [signingLoop] at h ⊢
    cases hget : sm.getNextSignaturePayload with
    | none =>
      rw [hget] at h
      exact h
    | some payload =>
      rw [hget] at h
      obtain ⟨t, ht, hloop⟩ := Option.bind_eq_some_iff.mp h
      exact Option.bind_eq_some_iff.mpr ⟨t, ht, ih hloop⟩

/-- there is a count left for the device, and these bytes are encrypted at it -/
def SessionManager.CanSeal (sm : SessionManager) (bytes : Bytes) : Prop :=
  ∃ count ciphertext, count.toNat = sm.deviceMessageCounter.toNat + 1 ∧
    AesGcm.encryptWithBackend sm.skDevice (initializationVector count false) bytes = some ciphertext

/-- the loop ends with the finished response ready to be retrieved, encrypted by the device -/
def Completes (sign : Nat → Uuid × Bytes → Bytes) (sm : SessionManager)
    (p : PreparedDeviceResponse) : Prop :=
  ∃ fuel sm' bytes nonce ciphertext message,
    signingLoop sign 0 fuel (sm.signing p) = some sm' ∧
    sm'.responseReady = true ∧ sm'.retrieveResponse.1 = some message ∧
    toVec (finishedResponse sign p) = .ok bytes ∧
    AesGcm.encryptWithBackend sm.skDevice nonce bytes = some ciphertext ∧
    toVec (⟨some ⟨ciphertext⟩, none⟩ : SessionData) = .ok message

end

section
variable [LawfulCiborium] [FaithfulCiborium] [CosetHeader] [ReadableHeaders] [Coset] [LawfulCoset]
  [AesGcm]

/-- a message with a ciphertext is the answer to a response that was sealed -/
theorem canSeal_of_answer {sm : SessionManager} {bytes ciphertext message : Bytes}
    (hanswer : toVec (SessionManager.answer
      (encryptDeviceData sm.skDevice bytes sm.deviceMessageCounter).1) = .ok message)
    (hmessage : toVec (⟨some ⟨ciphertext⟩, none⟩ : SessionData) = .ok message) :
    sm.CanSeal bytes := by
  have hsame := (SessionData.fromSlice_toVec hanswer).symm.trans
    (SessionData.fromSlice_toVec hmessage)
  rcases encrypt_cases sm.skDevice bytes sm.deviceMessageCounter false with hnone |
    ⟨count, sealed, hcount, hseal, -⟩
  · have hfailed : encryptDeviceData sm.skDevice bytes sm.deviceMessageCounter = _ := hnone
    rw [hfailed] at hsame
    cases hsame
  · exact ⟨count, sealed, hcount, hseal⟩

/-- what is sealed is the answer -/
theorem answer_of_canSeal {sm : SessionManager} {bytes : Bytes} (h : sm.CanSeal bytes) :
    ∃ nonce ciphertext, AesGcm.encryptWithBackend sm.skDevice nonce bytes = some ciphertext ∧
      SessionManager.answer (encryptDeviceData sm.skDevice bytes sm.deviceMessageCounter).1 =
        ⟨some ⟨ciphertext⟩, none⟩ := by
  obtain ⟨count, ciphertext, hcount, hseal⟩ := h
  refine ⟨_, ciphertext, hseal, ?_⟩
  have hok : encryptDeviceData sm.skDevice bytes sm.deviceMessageCounter =
      (some ⟨sm.skDevice, initializationVector count false, bytes, ciphertext⟩, count) := by
    show encrypt sm.skDevice bytes sm.deviceMessageCounter false = _
    unfold encrypt getInitializationVector
    rw [UInt32.checkedAdd_one.mpr hcount]
    dsimp only
    rw [hseal]
  rw [hok]
  rfl

/-- **The loop completes when there is a document to sign**, the finished response passes the
self-check of the last signature, and it can be encrypted. -/
theorem completes_iff {sign : Nat → Uuid × Bytes → Bytes} {sm : SessionManager}
    {p : PreparedDeviceResponse} :
    Completes sign sm p ↔ p.preparedDocuments ≠ [] ∧
      ∃ bytes, SessionManager.SelfChecks (finishedResponse sign p) bytes ∧ sm.CanSeal bytes := by
  constructor
  · intro h
    obtain ⟨fuel, sm', bytes, nonce, ciphertext, message, hloop, hready, hretrieved, hbytes, -,
      hmessage⟩ := h
    have hend := signingLoop_mono hloop (p.preparedDocuments.length + 1)
    rw [signingLoop_eq sign 0 sm (by omega)] at hend
    by_cases hnil : p.preparedDocuments = []
    · rw [if_pos hnil] at hend
      cases hend
      cases hready
    · rw [if_neg hnil] at hend
      refine ⟨hnil, ?_⟩
      obtain ⟨s, hresponse, rfl⟩ := Option.map_eq_some_iff.mp hend
      have hs : SessionManager.encryptResponse { sm with state := .AwaitingRequest }
        (finishedResponse sign p) = some s := hresponse
      cases SessionManager.encryptResponse_cases { sm with state := .AwaitingRequest }
        (finishedResponse sign p) with
      | inl hencrypted =>
        obtain ⟨s', answered, hs', bytes', hchecks, hanswer, hsm'⟩ := hencrypted
        rw [hs'] at hs
        cases hs
        obtain rfl : bytes' = bytes := Except.ok.inj (hchecks.1.symm.trans hbytes)
        rw [hsm'] at hretrieved
        cases hretrieved
        exact ⟨bytes', hchecks, canSeal_of_answer hanswer hmessage⟩
      | inr hfailed =>
        obtain ⟨-, hnone | ⟨s', hs', hsm'⟩⟩ := hfailed
        · rw [hnone] at hs
          cases hs
        · rw [hs'] at hs
          cases hs
          rw [hsm'] at hready
          cases hready
  · intro h
    obtain ⟨hne, bytes, hchecks, hseals⟩ := h
    obtain ⟨nonce, ciphertext, hseal, hanswer⟩ := answer_of_canSeal hseals
    obtain ⟨message, hmessage, hok⟩ := SessionManager.encryptResponse_of_selfChecks
      { sm with state := .AwaitingRequest } hchecks
    have hloop : signingLoop sign 0 (p.preparedDocuments.length + 1) (sm.signing p) =
        some { sm with
          deviceMessageCounter := (encryptDeviceData sm.skDevice bytes sm.deviceMessageCounter).2
          state := .ReadyToRespond message } := by
      rw [signingLoop_eq sign 0 sm (Nat.lt_succ_self _), if_neg hne]
      exact Option.map_eq_some_iff.mpr ⟨_, hok, rfl⟩
    exact ⟨_, _, bytes, nonce, ciphertext, message, hloop, rfl, rfl, hchecks.1, hseal,
      hanswer ▸ hmessage⟩

end

/-! ## what the finished response is made of -/

section
variable [LawfulCiborium] [FaithfulCiborium] [CosetHeader] [ReadableHeaders] [Coset] [LawfulCoset]
  [AesGcm]
variable {documents : Documents} {sessionTranscript : SessionTranscript180135}
  {deviceAuthType : DeviceAuthType}

/-- **The response to a request for readable documents reads back**, whatever is signed. -/
theorem readsBack_finishedResponse {requests : RequestedItems} {permitted : PermittedItems}
    (hreadable : ∀ (docType : String) (document : Document),
      documents.toMap[docType]? = some document → document.Readable)
    (sign : Nat → Uuid × Bytes → Bytes) :
    ReadsBack 16 (finishedResponse sign
      (sessionPrepareResponse documents sessionTranscript deviceAuthType requests permitted)) := by
  have heach : (sessionPrepareResponse documents sessionTranscript deviceAuthType requests
      permitted).Each (FromHeld documents) := each_sessionPrepareResponse
  refine (rereads_plain_iff 16 _).mp ((heach.signedBy _).finalizeResponse fun d hd => ?_)
  have hfrom := (heach.signedBy _).documentList d hd
  obtain ⟨docType, document, hdocument, hauth, hitems⟩ := hfrom.held
  obtain ⟨hissuerAuth, hread⟩ := hreadable docType document hdocument
  refine hfrom.rereads ?_ fun ns t ht => ?_
  · rw [hauth]
    exact (rereads_plain_iff 12 _).mpr hissuerAuth
  · obtain ⟨element, helement⟩ := hitems ns t ht
    exact hread ns element t helement

omit [AesGcm] in
theorem docType_prepareDocument {docType : String} {namespaces : BTreeMap String (List String)}
    {d : PreparedDocument}
    (h : prepareDocument documents sessionTranscript deviceAuthType docType namespaces = some d) :
    d.docType = docType := by
  obtain ⟨-, -, -, -, -, -, -, -, -, -, rfl⟩ := prepareDocument_eq_some.mp h
  rfl

/-- a document type that is permitted, requested, and held with a key that can sign -/
def Signable (documents : Documents) (requests : RequestedItems) (permitted : PermittedItems) :
    Prop :=
  ∃ (docType : String) (document : Document), docType ∈ permitted ∧
    (∃ request ∈ requests, request.docType = docType) ∧
    documents.toMap[docType]? = some document ∧
    ∃ algorithm, document.mso.deviceKeyInfo.deviceKey.signatureAlgorithm = some algorithm

variable (sessionTranscript deviceAuthType) in
/-- **There is a document to sign exactly when one is signable.** -/
theorem preparedDocuments_ne_nil {requests : RequestedItems} {permitted : PermittedItems} :
    (sessionPrepareResponse documents sessionTranscript deviceAuthType requests
      permitted).preparedDocuments ≠ [] ↔ Signable documents requests permitted := by
  constructor
  · intro h
    obtain ⟨d, hd⟩ := List.exists_mem_of_ne_nil _ h
    obtain ⟨namespaces, hfiltered, hprepare⟩ := mem_preparedDocuments.mp hd
    obtain ⟨document, hdocument, hkey, -⟩ := (prepareDocument_isSome _ _).mp ⟨d, hprepare⟩
    rw [getElem?_filterPermitted, Option.bind_eq_some_iff] at hfiltered
    obtain ⟨entry, hentry, hfind⟩ := hfiltered
    obtain ⟨request, hrequest, -⟩ := Option.map_eq_some_iff.mp hfind
    have hdoc := List.find?_some hrequest
    exact ⟨d.docType, document, BTreeMap.mem_iff_getElem?.mpr ⟨entry, hentry⟩,
      ⟨request, List.mem_of_find?_eq_some hrequest, of_decide_eq_true hdoc⟩, hdocument, hkey⟩
  · intro h
    obtain ⟨docType, document, hpermitted, ⟨request, hmem, hdoc⟩, hdocument, hkey⟩ := h
    obtain ⟨entry, hentry⟩ := BTreeMap.mem_iff_getElem?.mp hpermitted
    obtain ⟨first, hfirst⟩ : ∃ first, (requests.find? fun item => item.docType = docType) =
        some first := by
      rw [← Option.isSome_iff_exists, List.find?_isSome]
      exact ⟨request, hmem, decide_eq_true hdoc⟩
    have hfiltered : (filterPermitted requests permitted)[docType]? =
        some (filterNamespaces first entry) := by
      rw [getElem?_filterPermitted, hentry, Option.bind_some, hfirst]
      rfl
    obtain ⟨d, hd⟩ := (prepareDocument_isSome (S := SessionTranscript180135) _ _).mpr
      ⟨document, hdocument, hkey, _, rfl⟩
    obtain rfl := docType_prepareDocument hd
    exact List.ne_nil_of_mem (mem_preparedDocuments.mpr ⟨_, hfiltered, hd⟩)

/-- the documents of the finished response are the ones that were prepared -/
theorem itemsRead_finishedResponse (sign : Nat → Uuid × Bytes → Bytes)
    {p : PreparedDeviceResponse} (hp : p.signedDocuments = []) :
    ItemsRead (finishedResponse sign p) ↔ ∀ d ∈ p.preparedDocuments, ∀ ns, ∀ t ∈ d.disclosed ns,
      ∃ inner, fromSlice IssuerSignedItem t.innerBytes = .ok inner := by
  have hlength : p.preparedDocuments.length ≤
      (signaturesFrom sign 0 p.preparedDocuments.reverse).length := by
    rw [length_signaturesFrom, List.length_reverse]
  have hlist := PreparedDeviceResponse.documentList_finalizeResponse
    (PreparedDeviceResponse.isComplete_signedBy.mpr hlength)
  rw [hp, List.nil_append] at hlist
  have hfst := PreparedDeviceResponse.pairing_documents hlength
  unfold ItemsRead finishedResponse
  rw [hlist]
  constructor
  · intro h d hd ns t ht
    rw [← List.mem_reverse, ← hfst] at hd
    obtain ⟨e, he, rfl⟩ := List.mem_map.mp hd
    exact h _ (List.mem_map_of_mem he) ns t ht
  · intro h document hdocument ns t ht
    obtain ⟨e, he, rfl⟩ := List.mem_map.mp hdocument
    have hd : e.1 ∈ p.preparedDocuments := by
      rw [← List.mem_reverse, ← hfst]
      exact List.mem_map_of_mem he
    exact h e.1 hd ns t ht

/-- the bytes of every item that is asked for and permitted, in a document that can sign, are an
item's -/
def ReturnsItems (documents : Documents) (requests : RequestedItems) (permitted : PermittedItems) :
    Prop :=
  ∀ (docType : String) (document : Document) ns element t,
    documents.toMap[docType]? = some document →
    (∃ algorithm, document.mso.deviceKeyInfo.deviceKey.signatureAlgorithm = some algorithm) →
    Survives requests permitted docType ns element → document.held ns element = some t →
      ∃ inner, fromSlice IssuerSignedItem t.innerBytes = .ok inner

/-- **The items of the finished response read back when the items that are asked for do.** -/
theorem itemsRead_iff_returnsItems (sign : Nat → Uuid × Bytes → Bytes) {requests : RequestedItems}
    {permitted : PermittedItems} :
    ItemsRead (finishedResponse sign (sessionPrepareResponse documents sessionTranscript
      deviceAuthType requests permitted)) ↔ ReturnsItems documents requests permitted := by
  rw [itemsRead_finishedResponse sign rfl]
  constructor
  · intro h docType document ns element t hdocument hkey hsurvives hheld
    obtain ⟨namespaces, elements, hfiltered, hns, helement⟩ := hsurvives
    obtain ⟨d, hd⟩ := (prepareDocument_isSome (S := SessionTranscript180135) _ _).mpr
      ⟨document, hdocument, hkey, _, rfl⟩
    obtain rfl := docType_prepareDocument hd
    obtain ⟨document', hdocument', -, hdisclosed, -⟩ := prepareDocument_spec hd
    rw [hdocument] at hdocument'
    cases hdocument'
    exact h d (mem_preparedDocuments.mpr ⟨_, hfiltered, hd⟩) ns t
      ((hdisclosed ns t).mpr ⟨elements, hns, element, helement, hheld⟩)
  · intro h d hd ns t ht
    obtain ⟨namespaces, hfiltered, hprepare⟩ := mem_preparedDocuments.mp hd
    obtain ⟨document, hdocument, hsigns, hdisclosed, -⟩ := prepareDocument_spec hprepare
    obtain ⟨elements, hns, element, helement, hheld⟩ := (hdisclosed ns t).mp ht
    exact h d.docType document ns element t hdocument hsigns.1
      ⟨namespaces, elements, hfiltered, hns, helement⟩ hheld

end

/-! ## when the loop completes -/

section
variable [LawfulCiborium] [FaithfulCiborium] [CosetHeader] [ReadableHeaders] [Coset] [LawfulCoset]
  [AesGcm]

/-- the documented loop, run on a session that is signing, completes -/
def LoopCompletes (sign : Nat → Uuid × Bytes → Bytes) (sm : SessionManager) : Prop :=
  ∃ p, sm.state = .Signing p ∧ Completes sign sm p

/-- an AEAD that encrypts everything under this key -/
def SealsAll (key : SessionKey) : Prop :=
  ∀ nonce plaintext, ∃ ciphertext, AesGcm.encryptWithBackend key nonce plaintext = some ciphertext

theorem canSeal_iff {sm : SessionManager} (h : SealsAll sm.skDevice) (bytes : Bytes) :
    sm.CanSeal bytes ↔ sm.deviceMessageCounter.toNat < 2 ^ 32 - 1 := by
  constructor
  · intro hseals
    obtain ⟨count, -, hcount, -⟩ := hseals
    have hbound := count.toNat_lt
    omega
  · intro hcounter
    obtain ⟨ciphertext, hseal⟩ := h
      (initializationVector (UInt32.ofNat (sm.deviceMessageCounter.toNat + 1)) false) bytes
    have hlt : sm.deviceMessageCounter.toNat + 1 < UInt32.size := by
      show _ < 2 ^ 32
      omega
    exact ⟨_, ciphertext, UInt32.toNat_ofNat_of_lt' hlt, hseal⟩

theorem loopCompletes_prepareResponse {sign : Nat → Uuid × Bytes → Bytes} {sm : SessionManager}
    {requests : RequestedItems} {permitted : PermittedItems} :
    LoopCompletes sign (sm.prepareResponse requests permitted) ↔
      Signable sm.documents requests permitted ∧
        ∃ bytes, SessionManager.SelfChecks (finishedResponse sign (sessionPrepareResponse
          sm.documents sm.sessionTranscript sm.deviceAuthType requests permitted)) bytes ∧
          sm.CanSeal bytes := by
  rw [← preparedDocuments_ne_nil sm.sessionTranscript sm.deviceAuthType]
  have hiff : Completes sign (sm.prepareResponse requests permitted) (sessionPrepareResponse
      sm.documents sm.sessionTranscript sm.deviceAuthType requests permitted) ↔ _ := completes_iff
  constructor
  · intro h
    obtain ⟨p, hstate, hcompletes⟩ := h
    cases hstate
    exact hiff.mp hcompletes
  · intro h
    exact ⟨_, rfl, hiff.mpr h⟩

/-- with an AEAD that encrypts, the self-check and the counter decide -/
theorem loopCompletes_of_sealsAll {sign : Nat → Uuid × Bytes → Bytes} {sm : SessionManager}
    (hseals : SealsAll sm.skDevice) {requests : RequestedItems} {permitted : PermittedItems} :
    LoopCompletes sign (sm.prepareResponse requests permitted) ↔
      Signable sm.documents requests permitted ∧
        (∃ bytes, SessionManager.SelfChecks (finishedResponse sign (sessionPrepareResponse
          sm.documents sm.sessionTranscript sm.deviceAuthType requests permitted)) bytes) ∧
        sm.deviceMessageCounter.toNat < 2 ^ 32 - 1 := by
  rw [loopCompletes_prepareResponse]
  simp only [canSeal_iff hseals, exists_and_right]

variable [X509Cert] [P256] [Sha2] [Clock]

/-- a request that opens and does not parse leaves its error response to be signed -/
theorem handleRequest_error {sm : SessionManager} {request plaintext : Bytes}
    {e : PreparedDeviceResponse}
    (hopened : sm.opened (carriedCiphertext request) = some plaintext)
    (hparse : parseRequest plaintext = .error e) :
    (sm.handleRequest request).2.state = .Signing e := by
  unfold carriedCiphertext at hopened
  unfold SessionManager.handleRequest
  cases hread : fromSlice SessionData request with
  | error error =>
    rw [hread] at hopened
    cases hopened
  | ok sessionData =>
    rw [hread] at hopened
    obtain ⟨data, status⟩ := sessionData
    cases data with
    | none => cases hopened
    | some data =>
      have hdecrypt : (decryptReaderData sm.skReader data.bytes sm.readerMessageCounter).1 =
        some plaintext := hopened
      unfold SessionManager.handleDecodedRequest
      dsimp only
      generalize decryptReaderData sm.skReader data.bytes sm.readerMessageCounter = decrypted
        at hdecrypt ⊢
      obtain ⟨opened, count⟩ := decrypted
      cases hdecrypt
      dsimp only
      rw [hparse]

/-- **When the documented loop completes.**  After `prepare_response`: when a document is signable,
the finished response passes the self-check of the last signature, and it can be encrypted.  Where
`ciborium` and `coset` read back what they write and the AEAD encrypts, this is when a document is
signable, the items that are returned have the bytes of items, and the device's counter is not at
its end; the items are no condition where the documents are readable.  After a request that was
answered with an error response: never. -/
theorem signingLoop_completes_iff (sign : Nat → Uuid × Bytes → Bytes) (sm : SessionManager) :
    (∀ (requests : RequestedItems) (permitted : PermittedItems),
      LoopCompletes sign (sm.prepareResponse requests permitted) ↔
        Signable sm.documents requests permitted ∧
          ∃ bytes, SessionManager.SelfChecks (finishedResponse sign (sessionPrepareResponse
            sm.documents sm.sessionTranscript sm.deviceAuthType requests permitted)) bytes ∧
            sm.CanSeal bytes) ∧
    (SealsAll sm.skDevice →
      (∀ (docType : String) (document : Document),
        sm.documents.toMap[docType]? = some document → CosetRoundTrips document.issuerAuth) →
      ∀ (requests : RequestedItems) (permitted : PermittedItems),
        CiboriumRoundTrips (finishedResponse sign (sessionPrepareResponse sm.documents
          sm.sessionTranscript sm.deviceAuthType requests permitted)) →
        (LoopCompletes sign (sm.prepareResponse requests permitted) ↔
          Signable sm.documents requests permitted ∧
          ReturnsItems sm.documents requests permitted ∧
          sm.deviceMessageCounter.toNat < 2 ^ 32 - 1)) ∧
    (SealsAll sm.skDevice →
      (∀ (docType : String) (document : Document),
        sm.documents.toMap[docType]? = some document → document.Readable) →
      ∀ (requests : RequestedItems) (permitted : PermittedItems),
        LoopCompletes sign (sm.prepareResponse requests permitted) ↔
          Signable sm.documents requests permitted ∧
          sm.deviceMessageCounter.toNat < 2 ^ 32 - 1) ∧
    ∀ (request plaintext : Bytes) (e : PreparedDeviceResponse),
      sm.opened (carriedCiphertext request) = some plaintext →
        parseRequest plaintext = .error e →
          ¬ LoopCompletes sign (sm.handleRequest request).2 := by
  refine ⟨fun requests permitted => loopCompletes_prepareResponse, ?_, ?_, ?_⟩
  · intro hseals hcoset requests permitted hciborium
    have heach : (sessionPrepareResponse sm.documents sm.sessionTranscript sm.deviceAuthType
        requests permitted).Each (FromHeld sm.documents) := each_sessionPrepareResponse
    have hchecks := selfChecks_iff (heach.signedBy _) hcoset hciborium
    rw [loopCompletes_of_sealsAll hseals, ← itemsRead_iff_returnsItems sign]
    exact and_congr_right fun _ => and_congr_left fun _ => hchecks
  · intro hseals hreadable requests permitted
    rw [loopCompletes_of_sealsAll hseals,
      and_iff_right (selfChecks_of_readsBack (readsBack_finishedResponse hreadable sign))]
  · intro request plaintext e hopened hparse h
    obtain ⟨p, hstate, hcompletes⟩ := h
    rw [handleRequest_error hopened hparse] at hstate
    cases hstate
    obtain ⟨status, rfl⟩ := parseRequest_error_eq hparse
    exact (completes_iff.mp hcompletes).1 rfl

end

section
open scoped Reference

namespace Sample

theorem sealsAll (key : SessionKey) : SealsAll key := fun _ _ => ⟨_, rfl⟩

theorem returnsItems : ReturnsItems readableSession.documents requests permitted :=
  fun _ _ _ _ _ hdocument _ _ ht => held_reads hdocument ht

end Sample

theorem signingLoop_completes_iff_sample :
    LoopCompletes (fun _ _ => [1]) (Sample.readableSession.prepareResponse Sample.requests
      Sample.permitted) := by
  have hcoset (docType : String) (document : Document)
      (h : Sample.readableSession.documents.toMap[docType]? = some document) :
      CosetRoundTrips document.issuerAuth := by
    rw [Sample.eq_of_getElem?_new h]
    exact Sample.cosetRoundTrips
  have hciborium := Sample.ciboriumRoundTrips (r := finishedResponse (fun _ _ => [1])
    (sessionPrepareResponse Sample.readableSession.documents Sample.sessionTranscript .Sign1
      Sample.requests Sample.permitted)) (by decide +kernel)
  refine ((signingLoop_completes_iff (fun _ _ => [1]) Sample.readableSession).2.1
    (Sample.sealsAll _) hcoset Sample.requests Sample.permitted hciborium).mpr
    ⟨?_, Sample.returnsItems, by decide⟩
  exact ⟨"org.iso.18013.5.1.mDL", _, Std.ExtTreeMap.mem_insert_self,
    ⟨_, List.mem_singleton_self _, rfl⟩, rfl, .ES256, rfl⟩

/-- Nothing that is requested or permitted leaves the loop without a response. -/
theorem nothing_permitted_never_completes :
    ¬ ∀ (sign : Nat → Uuid × Bytes → Bytes) (sm : SessionManager) (requests : RequestedItems)
      (permitted : PermittedItems), LoopCompletes sign (sm.prepareResponse requests permitted) := by
  intro h
  obtain ⟨⟨docType, document, hpermitted, -⟩, -⟩ :=
    loopCompletes_prepareResponse.mp (h (fun _ _ => []) (Sample.sessionManager ⟨[]⟩) [] ∅)
  exact absurd hpermitted Std.ExtTreeMap.not_mem_empty

end

end Device

end Isomdl
