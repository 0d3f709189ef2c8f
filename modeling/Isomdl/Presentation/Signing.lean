import Isomdl.Lib.Run
import Isomdl.Presentation.Disclosure
import Isomdl.Reference.Crypto

/-!
# Signing a prepared response (`presentation/device.rs`)

A prepared response exposes the payload of its last unsigned document and attaches the next
signature to that document.

* `PreparedDeviceResponse.calls_eq`   where any calls leave a prepared response;
* `SessionManager.calls_signing`      where they leave the session that is signing it;
* `signatures_paired`                 every signature goes to the document it was asked for.
-/

set_option linter.unusedSectionVars false

namespace Isomdl

open Cbor

namespace Device

/-- a call of the signing loop -/
inductive SigningCall where
  | getNextSignaturePayload
  | submitNextSignature (signature : Bytes)

/-- the signatures that are submitted, in order -/
def SigningCall.signatures : List SigningCall → List Bytes
  | [] => []
  | .getNextSignaturePayload :: calls => signatures calls
  | .submitNextSignature signature :: calls => signature :: signatures calls

/-- **A document that is signed**: it is what was prepared, and its authenticator is the prepared one
with this signature, or this tag -/
structure PreparedDocument.SignedWith (d : PreparedDocument) (signature : Bytes)
    (document : DeviceResponse.Document) : Prop where
  docType : document.docType = d.docType
  issuerSigned : document.issuerSigned = d.issuerSigned
  namespaces : document.deviceSigned.namespaces = d.deviceNamespaces
  errors : document.errors = d.errors
  deviceSignature : ∀ p, d.preparedCose = .Sign1 p →
    document.deviceSigned.deviceAuth = .deviceSignature
      { tagged := p.coseSign1.tagged
        inner :=
          { protectedHeader := p.coseSign1.inner.protectedHeader
            unprotected := p.coseSign1.inner.unprotected
            payload := p.coseSign1.inner.payload
            signature := signature } }
  deviceMac : ∀ p, d.preparedCose = .Mac0 p →
    document.deviceSigned.deviceAuth = .deviceMac
      { tagged := p.coseMac0.tagged
        inner :=
          { protectedHeader := p.coseMac0.inner.protectedHeader
            unprotected := p.coseMac0.inner.unprotected
            payload := p.coseMac0.inner.payload
            tag := signature } }

theorem PreparedDocument.signedWith_finalize (d : PreparedDocument) (signature : Bytes) :
    d.SignedWith signature (d.finalize signature) where
  docType := rfl
  issuerSigned := rfl
  namespaces := rfl
  errors := rfl
  deviceSignature p h := by
    unfold PreparedDocument.finalize
    rw [h]
    rfl
  deviceMac p h := by
    unfold PreparedDocument.finalize
    rw [h]
    rfl

namespace PreparedDeviceResponse

def call (p : PreparedDeviceResponse) : SigningCall → PreparedDeviceResponse
  | .getNextSignaturePayload => p
  | .submitNextSignature signature => p.submitNextSignature signature

def calls (p : PreparedDeviceResponse) (calls : List SigningCall) : PreparedDeviceResponse :=
  calls.foldl call p

/-- the documents in the order they are signed, each with its signature -/
def pairing (p : PreparedDeviceResponse) (signatures : List Bytes) :
    List (PreparedDocument × Bytes) := p.preparedDocuments.reverse.zip signatures

/-- the response after these signatures -/
def signedBy (p : PreparedDeviceResponse) (signatures : List Bytes) : PreparedDeviceResponse :=
  { p with
    preparedDocuments :=
      p.preparedDocuments.take (p.preparedDocuments.length - signatures.length)
    signedDocuments :=
      p.signedDocuments ++ (p.pairing signatures).map fun e => e.1.finalize e.2 }

/-! ## one signature -/

theorem submitNextSignature_nil {p : PreparedDeviceResponse} (h : p.preparedDocuments = [])
    (signature : Bytes) : p.submitNextSignature signature = p := by
  rw [submitNextSignature, h]
  rfl

theorem submitNextSignature_append {p : PreparedDeviceResponse} {rest : List PreparedDocument}
    {document : PreparedDocument} (h : p.preparedDocuments = rest ++ [document])
    (signature : Bytes) :
    p.submitNextSignature signature =
      { p with
        preparedDocuments := rest
        signedDocuments := p.signedDocuments ++ [document.finalize signature] } := by
  rw [submitNextSignature, h, List.getLast?_append_of_ne_nil _ (List.cons_ne_nil _ _)]
  show ({ p with
    preparedDocuments := (rest ++ [document]).dropLast
    signedDocuments := p.signedDocuments ++ [document.finalize signature] } :
      PreparedDeviceResponse) = _
  rw [List.dropLast_concat]

theorem getNextSignaturePayload_eq_some {p : PreparedDeviceResponse} {id : Uuid}
    {payload : Bytes} :
    p.getNextSignaturePayload = some (id, payload) ↔
      ∃ rest document, p.preparedDocuments = rest ++ [document] ∧ document.id = id ∧
        document.preparedCose.signaturePayload = payload := by
  rw [getNextSignaturePayload, Option.map_eq_some_iff]
  constructor
  · intro h
    obtain ⟨document, hlast, heq⟩ := h
    obtain ⟨rest, hrest⟩ := List.getLast?_eq_some_iff.mp hlast
    cases heq
    exact ⟨rest, document, hrest, rfl, rfl⟩
  · intro h
    obtain ⟨rest, document, hrest, hid, hpayload⟩ := h
    refine ⟨document, List.getLast?_eq_some_iff.mpr ⟨rest, hrest⟩, ?_⟩
    rw [hid, hpayload]

theorem getNextSignaturePayload_eq_none {p : PreparedDeviceResponse} :
    p.getNextSignaturePayload = none ↔ p.preparedDocuments = [] := by
  rw [getNextSignaturePayload, Option.map_eq_none_iff, List.getLast?_eq_none_iff]

theorem isComplete_iff {p : PreparedDeviceResponse} :
    p.isComplete = true ↔ p.preparedDocuments = [] := List.isEmpty_iff

/-! ## any calls -/

theorem signedBy_nil (p : PreparedDeviceResponse) : p.signedBy [] = p := by
  unfold signedBy pairing
  rw [List.zip_nil_right, List.map_nil, List.append_nil, List.length_nil, Nat.sub_zero,
    List.take_length]

theorem signedBy_cons (p : PreparedDeviceResponse) (signature : Bytes) (signatures : List Bytes) :
    p.signedBy (signature :: signatures) = (p.submitNextSignature signature).signedBy signatures := by
  cases List.eq_nil_or_concat p.preparedDocuments with
  | inl h =>
    rw [submitNextSignature_nil h]
    unfold signedBy pairing
    rw [h, List.take_nil, List.take_nil]
    rfl
  | inr h =>
    obtain ⟨rest, document, h⟩ := h
    rw [List.concat_eq_append] at h
    have hlen : (rest ++ [document]).length - (signature :: signatures).length =
        rest.length - signatures.length := by
      rw [List.length_append, List.length_singleton, List.length_cons, Nat.add_sub_add_right]
    rw [submitNextSignature_append h]
    unfold signedBy pairing
    rw [h, hlen, List.take_append_of_le_length (Nat.sub_le _ _), List.reverse_append]
    simp only [List.reverse_singleton, List.singleton_append, List.zip_cons_cons, List.map_cons,
      List.append_assoc]

/-- **Where any calls leave a prepared response.** -/
theorem calls_eq (p : PreparedDeviceResponse) (cs : List SigningCall) :
    p.calls cs = p.signedBy (SigningCall.signatures cs) := by
  induction cs generalizing p with
  | nil => exact (signedBy_nil p).symm
  | cons c cs ih =>
    show (p.call c).calls cs = _
    rw [ih]
    cases c with
    | getNextSignaturePayload => rfl
    | submitNextSignature signature => exact (signedBy_cons p signature _).symm

theorem isComplete_signedBy {p : PreparedDeviceResponse} {signatures : List Bytes} :
    (p.signedBy signatures).isComplete = true ↔
      p.preparedDocuments.length ≤ signatures.length := by
  rw [isComplete_iff]
  show p.preparedDocuments.take (p.preparedDocuments.length - signatures.length) = [] ↔ _
  rw [List.take_eq_nil_iff, ← List.length_eq_zero_iff]
  omega

/-- with a signature for every document, the documents that are paired are the prepared ones -/
theorem pairing_documents {p : PreparedDeviceResponse} {signatures : List Bytes}
    (h : p.preparedDocuments.length ≤ signatures.length) :
    (p.pairing signatures).map Prod.fst = p.preparedDocuments.reverse :=
  List.map_fst_zip (by rwa [List.length_reverse])

/-- the documents of a response that is complete, each with its signature -/
theorem documentList_finalizeResponse {p : PreparedDeviceResponse} {signatures : List Bytes}
    (hcomplete : (p.signedBy signatures).isComplete = true) :
    (p.signedBy signatures).finalizeResponse.documentList =
      p.signedDocuments ++ (p.pairing signatures).map fun e => e.1.finalize e.2 := by
  rw [finalizeResponse, if_pos hcomplete]
  show ((NonEmptyVec.tryFrom (p.signedDocuments ++ _)).map NonEmptyVec.toList).getD [] = _
  generalize p.signedDocuments ++ (p.pairing signatures).map (fun e => e.1.finalize e.2) = l
  cases l <;> rfl

/-- the pairs of a document and its signature, finalized -/
theorem forall₂_signedWith (pairs : List (PreparedDocument × Bytes)) :
    List.Forall₂ (fun e document => e.1.SignedWith e.2 document) pairs
      (pairs.map fun e => e.1.finalize e.2) := by
  induction pairs with
  | nil => exact .nil
  | cons e pairs ih => exact .cons (e.1.signedWith_finalize e.2) ih

/-- **Calls on a prepared response**: what each does, and what they have done when every document
is signed -/
structure Paired (p : PreparedDeviceResponse) (cs : List SigningCall) : Prop where
  peek : (p.calls cs).call .getNextSignaturePayload = p.calls cs
  attached : ∀ id payload signature, (p.calls cs).getNextSignaturePayload = some (id, payload) →
    ∃ rest document signed, (p.calls cs).preparedDocuments = rest ++ [document] ∧
      document.id = id ∧ document.preparedCose.signaturePayload = payload ∧
      document.SignedWith signature signed ∧
      (p.calls cs).call (.submitNextSignature signature) =
        { p.calls cs with
          preparedDocuments := rest
          signedDocuments := (p.calls cs).signedDocuments ++ [signed] }
  ignored : ∀ signature, (p.calls cs).getNextSignaturePayload = none →
    (p.calls cs).call (.submitNextSignature signature) = p.calls cs
  signed : ∃ documents, (p.calls cs).signedDocuments = p.signedDocuments ++ documents ∧
    List.Forall₂ (fun e document => e.1.SignedWith e.2 document)
      (p.pairing (SigningCall.signatures cs)) documents
  finalized : (p.calls cs).isComplete = true →
    ((p.pairing (SigningCall.signatures cs)).map Prod.fst).Perm p.preparedDocuments ∧
    (p.pairing (SigningCall.signatures cs)).map Prod.snd =
      (SigningCall.signatures cs).take p.preparedDocuments.length ∧
    (∃ documents,
      (p.calls cs).finalizeResponse.documentList = p.signedDocuments ++ documents ∧
      List.Forall₂ (fun e document => e.1.SignedWith e.2 document)
        (p.pairing (SigningCall.signatures cs)) documents) ∧
    (p.calls cs).finalizeResponse.version = DeviceResponse.VERSION ∧
    (p.calls cs).finalizeResponse.documentErrors = p.documentErrors ∧
    (p.calls cs).finalizeResponse.status = p.status

theorem paired (p : PreparedDeviceResponse) (cs : List SigningCall) : Paired p cs where
  peek := rfl
  attached id payload signature h := by
    obtain ⟨rest, document, hrest, hid, hpayload⟩ := getNextSignaturePayload_eq_some.mp h
    exact ⟨rest, document, document.finalize signature, hrest, hid, hpayload,
      document.signedWith_finalize signature, submitNextSignature_append hrest signature⟩
  ignored signature h :=
    submitNextSignature_nil (getNextSignaturePayload_eq_none.mp h) signature
  signed := by
    rw [calls_eq]
    exact ⟨_, rfl, forall₂_signedWith _⟩
  finalized h := by
    rw [calls_eq] at h
    have hlen := isComplete_signedBy.mp h
    refine ⟨?_, ?_, ?_, ?_⟩
    · rw [pairing_documents hlen]
      exact List.reverse_perm _
    · rw [pairing, List.zip_eq_zip_take_min, List.length_reverse, Nat.min_eq_left hlen,
        List.map_snd_zip]
      rw [List.length_take, List.length_take, List.length_reverse]
      omega
    · rw [calls_eq]
      exact ⟨_, documentList_finalizeResponse h, forall₂_signedWith _⟩
    · rw [calls_eq, finalizeResponse, if_pos h]
      exact ⟨rfl, rfl, rfl⟩

/-- once every document is signed, further calls change nothing -/
theorem calls_nil {p : PreparedDeviceResponse} (h : p.preparedDocuments = [])
    (cs : List SigningCall) : p.calls cs = p := by
  induction cs with
  | nil => rfl
  | cons c cs ih =>
    show (p.call c).calls cs = p
    cases c with
    | getNextSignaturePayload => exact ih
    | submitNextSignature signature =>
      show (p.submitNextSignature signature).calls cs = p
      rw [submitNextSignature_nil h]
      exact ih

theorem length_submitNextSignature (p : PreparedDeviceResponse) (signature : Bytes) :
    (p.submitNextSignature signature).preparedDocuments.length = p.preparedDocuments.length - 1 := by
  cases List.eq_nil_or_concat p.preparedDocuments with
  | inl h => rw [submitNextSignature_nil h, h, List.length_nil]
  | inr h =>
    obtain ⟨rest, document, h⟩ := h
    rw [List.concat_eq_append] at h
    rw [submitNextSignature_append h, h, List.length_append, List.length_singleton,
      Nat.add_sub_cancel]

end PreparedDeviceResponse

/-! ## the session -/

namespace SessionManager

section
variable [Ciborium] [Coset] [AesGcm]

def call (sm : SessionManager) : SigningCall → Option SessionManager
  | .getNextSignaturePayload => some sm
  | .submitNextSignature signature => (sm.submitNextSignature signature).map (·.sm)

/-- the self-check of `submit_next_signature`: the response encodes to bytes that decode to a
response with the same bytes -/
def SelfChecks (response : DeviceResponse) (bytes : Bytes) : Prop :=
  toVec response = .ok bytes ∧
    ∃ response2, fromSlice DeviceResponse bytes = .ok response2 ∧ toVec response2 = .ok bytes

/-- the message of a response that was encrypted, or of the failure to encrypt it -/
def answer : Option Sealing → SessionData
  | some sealing => ⟨some ⟨sealing.ciphertext⟩, none⟩
  | none => ⟨none, some .SessionEncryptionError⟩

/-- the session with an encrypted response ready -/
structure Encrypted (sm : SessionManager) (response : DeviceResponse) (message : Bytes)
    (sm' : SessionManager) : Prop where
  exists_bytes : ∃ bytes, SelfChecks response bytes ∧
    toVec (answer (encryptDeviceData sm.skDevice bytes sm.deviceMessageCounter).1) = .ok message ∧
    sm' = { sm with
      deviceMessageCounter := (encryptDeviceData sm.skDevice bytes sm.deviceMessageCounter).2
      state := .ReadyToRespond message }

/-- **A response that passes the self-check is encrypted.** -/
theorem encryptResponse_of_selfChecks (sm : SessionManager) {response : DeviceResponse}
    {bytes : Bytes} (h : SelfChecks response bytes) :
    ∃ message,
      toVec (answer (encryptDeviceData sm.skDevice bytes sm.deviceMessageCounter).1) =
        .ok message ∧
      sm.encryptResponse response = some ⟨.ok (), { sm with
        deviceMessageCounter := (encryptDeviceData sm.skDevice bytes sm.deviceMessageCounter).2
        state := .ReadyToRespond message },
        (encryptDeviceData sm.skDevice bytes sm.deviceMessageCounter).1⟩ := by
  obtain ⟨hbytes, response2, hread, hbytes2⟩ := h
  obtain ⟨message, hmessage⟩ := SessionData.toVec_isOk
    (answer (encryptDeviceData sm.skDevice bytes sm.deviceMessageCounter).1)
  refine ⟨message, hmessage, ?_⟩
  unfold encryptResponse
  simp only [hbytes, hread, hbytes2]
  rw [if_neg (not_not_intro rfl)]
  generalize encryptDeviceData sm.skDevice bytes sm.deviceMessageCounter = sealed at hmessage ⊢
  obtain ⟨sealing, count⟩ := sealed
  cases sealing with
  | none =>
    have hm : toVec (⟨none, some .SessionEncryptionError⟩ : SessionData) = .ok message := hmessage
    simp only [hm]
  | some sealing =>
    have hm : toVec (⟨some ⟨sealing.ciphertext⟩, none⟩ : SessionData) = .ok message := hmessage
    simp only [hm]

/-- **One that does not leaves a panic or an error.** -/
theorem encryptResponse_of_not_selfChecks (sm : SessionManager) {response : DeviceResponse}
    (h : ¬ ∃ bytes, SelfChecks response bytes) :
    sm.encryptResponse response = none ∨
      ∃ e, sm.encryptResponse response = some ⟨.error e, sm, none⟩ := by
  unfold encryptResponse
  cases hbytes : toVec response with
  | error e => exact .inr ⟨_, rfl⟩
  | ok bytes =>
    cases hread : fromSlice DeviceResponse bytes with
    | error e =>
      left
      simp only [hread]
    | ok response2 =>
      cases hbytes2 : toVec response2 with
      | error e =>
        simp only [hread, hbytes2]
        exact .inr ⟨_, rfl⟩
      | ok bytes2 =>
        have hne : bytes ≠ bytes2 := by
          intro heq
          exact h ⟨bytes, hbytes, response2, hread, by rw [hbytes2, heq]⟩
        simp only [hread, hbytes2]
        exact .inl (if_pos hne)

theorem encryptResponse_cases (sm : SessionManager) (response : DeviceResponse) :
    (∃ s message, sm.encryptResponse response = some s ∧ Encrypted sm response message s.sm) ∨
    ((¬ ∃ bytes, SelfChecks response bytes) ∧
      (sm.encryptResponse response = none ∨
        ∃ s, sm.encryptResponse response = some s ∧ s.sm = sm)) := by
  by_cases hcheck : ∃ bytes, SelfChecks response bytes
  · obtain ⟨bytes, hcheck⟩ := hcheck
    obtain ⟨message, hmessage, hok⟩ := encryptResponse_of_selfChecks sm hcheck
    exact .inl ⟨_, message, hok, bytes, hcheck, hmessage, rfl⟩
  · refine .inr ⟨hcheck, ?_⟩
    cases encryptResponse_of_not_selfChecks sm hcheck with
    | inl hnone => exact .inl hnone
    | inr herror =>
      obtain ⟨e, herror⟩ := herror
      exact .inr ⟨_, herror, rfl⟩

/-- a session that is not signing -/
def Idle (sm : SessionManager) : Prop := ∀ p, sm.state ≠ .Signing p

theorem encryptResponse_idle {sm : SessionManager} {response : DeviceResponse} {s : Submitted}
    (hsm : sm.Idle) (h : sm.encryptResponse response = some s) : s.sm.Idle := by
  cases encryptResponse_cases sm response with
  | inl hready =>
    obtain ⟨s', message, hs, bytes, -, -, hsm'⟩ := hready
    rw [hs] at h
    cases h
    intro p
    rw [hsm']
    intro heq
    cases heq
  | inr hfailed =>
    obtain ⟨-, hnone | ⟨s', hs, hsm'⟩⟩ := hfailed
    · rw [hnone] at h
      cases h
    · rw [hs] at h
      cases h
      rw [hsm']
      exact hsm

theorem call_idle {sm : SessionManager} (h : sm.Idle) (c : SigningCall) : sm.call c = some sm := by
  cases c with
  | getNextSignaturePayload => rfl
  | submitNextSignature signature =>
    unfold call submitNextSignature
    cases hstate : sm.state with
    | Signing p => exact absurd hstate (h p)
    | AwaitingRequest => rfl
    | ReadyToRespond r => rfl

theorem after_idle {sm : SessionManager} (h : sm.Idle) (cs : List SigningCall) :
    Run.after call sm cs = some sm := by
  induction cs with
  | nil => rfl
  | cons c cs ih => exact Run.after_cons_eq_some.mpr ⟨sm, call_idle h c, ih⟩

/-- the session that is signing `p` -/
def signing (sm : SessionManager) (p : PreparedDeviceResponse) : SessionManager :=
  { sm with state := .Signing p }

theorem call_signing (sm : SessionManager) (p : PreparedDeviceResponse) (signature : Bytes) :
    (sm.signing p).call (.submitNextSignature signature) =
      if (p.submitNextSignature signature).isComplete then
        (encryptResponse { sm with state := .AwaitingRequest }
          (p.submitNextSignature signature).finalizeResponse).map (·.sm)
      else some (sm.signing (p.submitNextSignature signature)) := by
  show (if (p.submitNextSignature signature).isComplete then _ else _ : Option Submitted).map
    (·.sm) = _
  split <;> rfl

/-- **Where any calls leave the session**: it signs until the last document has its signature, and
then the response with these signatures is encrypted. -/
theorem calls_signing (sm : SessionManager) (p : PreparedDeviceResponse) (cs : List SigningCall) :
    Run.after call (sm.signing p) cs =
      if (SigningCall.signatures cs).length < max 1 p.preparedDocuments.length then
        some (sm.signing (p.calls cs))
      else
        (encryptResponse { sm with state := .AwaitingRequest }
          (p.calls cs).finalizeResponse).map (·.sm) := by
  induction cs generalizing p with
  | nil =>
    rw [if_pos (by show 0 < _; omega)]
    rfl
  | cons c cs ih =>
    cases c with
    | getNextSignaturePayload => exact ih p
    | submitNextSignature signature =>
      have hlen := p.length_submitNextSignature signature
      have hcalls : p.calls (.submitNextSignature signature :: cs) =
          (p.submitNextSignature signature).calls cs := rfl
      rw [Run.after_cons, hcalls, SigningCall.signatures, List.length_cons, call_signing]
      by_cases hc : (p.submitNextSignature signature).isComplete = true
      · have hnil := PreparedDeviceResponse.isComplete_iff.mp hc
        rw [hnil, List.length_nil] at hlen
        rw [if_pos hc, PreparedDeviceResponse.calls_nil hnil, if_neg (by omega)]
        cases hs : encryptResponse { sm with state := .AwaitingRequest }
          (p.submitNextSignature signature).finalizeResponse with
        | none => rfl
        | some s =>
          have hidle : s.sm.Idle := encryptResponse_idle (fun p heq => by cases heq) hs
          exact after_idle hidle cs
      · have hne : (p.submitNextSignature signature).preparedDocuments.length ≠ 0 := by
          intro hzero
          exact hc (PreparedDeviceResponse.isComplete_iff.mpr (List.length_eq_zero_iff.mp hzero))
        have hmax : (SigningCall.signatures cs).length + 1 < max 1 p.preparedDocuments.length ↔
            (SigningCall.signatures cs).length <
              max 1 (p.submitNextSignature signature).preparedDocuments.length := by omega
        rw [if_neg hc]
        simp only [hmax]
        exact ih _

end

end SessionManager

section
variable [Ciborium] [Coset] [AesGcm]

/-- **Signatures are paired with their documents**: each goes to the document whose payload was
shown before it, and the response that is encrypted in the end holds every document once. -/
theorem signatures_paired (p : PreparedDeviceResponse) (cs : List SigningCall) :
    p.Paired cs ∧
      ∀ sm : SessionManager,
        (sm.signing p).getNextSignaturePayload = p.getNextSignaturePayload ∧
        Run.after SessionManager.call (sm.signing p) cs =
          if (SigningCall.signatures cs).length < max 1 p.preparedDocuments.length then
            some (sm.signing (p.calls cs))
          else
            (SessionManager.encryptResponse { sm with state := .AwaitingRequest }
              (p.calls cs).finalizeResponse).map (·.sm) :=
  ⟨p.paired cs, fun sm => ⟨rfl, sm.calls_signing p cs⟩⟩

end

section
open scoped Reference

namespace Sample

theorem length_photoId : (List.replicate 16 (7 : UInt8)).length = 16 := rfl

/-- the documents of a holder with two documents -/
def bothDocuments : Documents :=
  (documents coseKey).insert "org.iso.23220.photoid.1"
    { id := ⟨List.replicate 16 7, length_photoId⟩
      issuerAuth := ⟨false, ⟨⟨none, Header.empty⟩, Header.empty, none, []⟩⟩
      mso := mso coseKey
      namespaces := NonEmptyMap.new "org.iso.23220.1" (NonEmptyMap.new "family_name" familyName) }

def bothRequests : RequestedItems :=
  requests ++ [⟨"org.iso.23220.photoid.1",
    NonEmptyMap.new "org.iso.23220.1" (NonEmptyMap.new "family_name" false), none⟩]

def bothPermitted : PermittedItems :=
  permitted.insert "org.iso.23220.photoid.1"
    ((∅ : BTreeMap String (List String)).insert "org.iso.23220.1" ["family_name"])

/-- a response with both documents to sign -/
def bothPrepared : PreparedDeviceResponse :=
  sessionPrepareResponse bothDocuments sessionTranscript .Sign1 bothRequests bothPermitted

end Sample

/-- Of two documents the last is signed first. -/
theorem signatures_paired_sample :
    ∃ mdl photoId signedPhotoId signedMdl,
      Sample.bothPrepared.preparedDocuments = [mdl, photoId] ∧
      mdl.docType = "org.iso.18013.5.1.mDL" ∧ photoId.docType = "org.iso.23220.photoid.1" ∧
      (Sample.bothPrepared.calls [.getNextSignaturePayload, .submitNextSignature [1],
        .getNextSignaturePayload, .submitNextSignature [2]]).finalizeResponse.documentList =
          [signedPhotoId, signedMdl] ∧
      photoId.SignedWith [1] signedPhotoId ∧ mdl.SignedWith [2] signedMdl := by
  have htypes : Sample.bothPrepared.preparedDocuments.map (fun d => d.docType) =
      ["org.iso.18013.5.1.mDL", "org.iso.23220.photoid.1"] := by
    decide +kernel
  obtain ⟨mdl, rest, hprepared, hmdl, hrest⟩ := List.map_eq_cons_iff.mp htypes
  obtain ⟨photoId, tail, rfl, hphotoId, htail⟩ := List.map_eq_cons_iff.mp hrest
  rw [List.map_eq_nil_iff.mp htail] at hprepared
  have hcalls : (Sample.bothPrepared.calls [.getNextSignaturePayload, .submitNextSignature [1],
      .getNextSignaturePayload, .submitNextSignature [2]]).isComplete = true := by
    rw [PreparedDeviceResponse.calls_eq, PreparedDeviceResponse.isComplete_signedBy, hprepared]
    exact Nat.le_refl 2
  obtain ⟨-, -, ⟨signed, hsigned, hpaired⟩, -⟩ :=
    (signatures_paired Sample.bothPrepared _).1.finalized hcalls
  have hpairing : Sample.bothPrepared.pairing [[1], [2]] = [(photoId, [1]), (mdl, [2])] := by
    rw [PreparedDeviceResponse.pairing, hprepared]
    rfl
  have hboth : List.Forall₂ (fun e document => e.1.SignedWith e.2 document)
      [(photoId, [1]), (mdl, [2])] signed := hpairing ▸ hpaired
  obtain ⟨signedPhotoId, signed, hfirst, hlast, rfl⟩ := List.forall₂_cons_left_iff.mp hboth
  obtain ⟨signedMdl, signed, hsecond, hnone, rfl⟩ := List.forall₂_cons_left_iff.mp hlast
  rw [List.forall₂_nil_left_iff.mp hnone] at hsigned
  exact ⟨mdl, photoId, signedPhotoId, signedMdl, hprepared, hmdl, hphotoId, hsigned, hfirst,
    hsecond⟩

end

end Device

end Isomdl
