import Isomdl.Presentation.ResponseAgreement
import Isomdl.Presentation.StoredDocument

/-!
# Sessions over documents that were stored

Documents that are written alike are disclosed alike: what a session prepares, has signed, encrypts
and hands out does not depend on which of them it holds.  So a device that stores its documents and
reads them back presents as it did before.

* `prepareDocument_alike`            a document is prepared alike;
* `Device.SessionManager.Alike.step` every operation keeps two sessions alike;
* `System.restored_agrees`           no run tells them apart.
-/

set_option linter.unusedSectionVars false

namespace Isomdl

open Cbor

namespace Device

/-! ## items that are disclosed -/

def itemsBytes (items : NonEmptyVec IssuerSignedItemBytes) : List Bytes :=
  items.toList.map (·.innerBytes)

/-- two disclosures with the same items, up to what the items decode to, and the same errors -/
structure Disclosure.Alike (d d' : Disclosure) : Prop where
  items : ∀ ns : String,
    (d'.issuerNamespaces[ns]?).map itemsBytes = (d.issuerNamespaces[ns]?).map itemsBytes
  errors : d'.errors = d.errors

namespace Disclosure

theorem Alike.addItem {d d' : Disclosure} (h : d.Alike d') {t t' : IssuerSignedItemBytes}
    (ht : t'.innerBytes = t.innerBytes) (ns : String) : (d.addItem ns t).Alike (d'.addItem ns t') := by
  refine ⟨fun k => ?_, h.errors⟩
  unfold Disclosure.addItem
  rw [BTreeMap.getElem?_insert, BTreeMap.getElem?_insert]
  by_cases hk : k = ns
  · have hitems := h.items ns
    rw [if_pos hk, if_pos hk]
    cases hold : d.issuerNamespaces[ns]? with
    | none =>
      rw [hold, Option.map_none, Option.map_eq_none_iff] at hitems
      rw [hitems]
      show some [t'.innerBytes] = some [t.innerBytes]
      rw [ht]
    | some v =>
      rw [hold, Option.map_some, Option.map_eq_some_iff] at hitems
      obtain ⟨v', hnew, hitems⟩ := hitems
      rw [hnew]
      show some ((v'.toList ++ [t']).map _) = some ((v.toList ++ [t]).map _)
      rw [List.map_append, List.map_append, List.map_singleton, List.map_singleton, ht]
      exact congrArg (fun l => some (l ++ [t.innerBytes])) hitems
  · rw [if_neg hk, if_neg hk]
    exact h.items k

theorem Alike.addError {d d' : Disclosure} (h : d.Alike d') (ns element : String) :
    (d.addError ns element).Alike (d'.addError ns element) := by
  refine ⟨h.items, ?_⟩
  unfold Disclosure.addError
  rw [h.errors]

section
variable [Ciborium] [Coset]

theorem addElement_held (document : Document) (ns element : String) (d : Disclosure) :
    addElement document ns d element =
      (document.held ns element).elim (d.addError ns element) (d.addItem ns) := by
  unfold Disclosure.addElement Document.held
  cases (document.namespaces.toMap[ns]?).bind fun issuerItems => issuerItems.toMap[element]? <;> rfl

theorem Alike.addElement [Rfc3339] {document document' : Document} (hdoc : document.Alike document')
    {d d' : Disclosure} (h : d.Alike d') (ns element : String) :
    (addElement document ns d element).Alike (addElement document' ns d' element) := by
  have hheld := hdoc.held ns element
  rw [addElement_held, addElement_held]
  cases hold : document.held ns element with
  | none =>
    rw [hold, Option.map_none, Option.map_eq_none_iff] at hheld
    rw [hheld]
    exact h.addError ns element
  | some t =>
    rw [hold, Option.map_some, Option.map_eq_some_iff] at hheld
    obtain ⟨t', hnew, ht⟩ := hheld
    rw [hnew]
    exact h.addItem ht ns

/-- **Documents that are alike are disclosed alike.** -/
theorem alike_ofNamespaces [Rfc3339] {document document' : Document} (hdoc : document.Alike document')
    (namespaces : BTreeMap String (List String)) :
    (ofNamespaces document namespaces).Alike (ofNamespaces document' namespaces) := by
  unfold ofNamespaces
  have hempty : empty.Alike empty := ⟨fun _ => rfl, rfl⟩
  refine List.foldl_rel (r := Alike) hempty fun entry _ d d' h => ?_
  exact List.foldl_rel (r := Alike) h fun element _ d d' h => h.addElement hdoc entry.1 element

/-- **Disclosures that are alike are written alike.** -/
theorem Alike.toValue_tryFrom {d d' : Disclosure} (h : d.Alike d') :
    (NonEmptyMap.tryFrom d'.issuerNamespaces).map toValue =
      ((NonEmptyMap.tryFrom d.issuerNamespaces).map toValue : Option (Except String Value)) := by
  let written (l : List Bytes) : Value := .array (l.map fun b => .tag 24 (.bytes b))
  have hwritten (v : NonEmptyVec IssuerSignedItemBytes) :
      (toValue v : Except String Value) = .ok (written (itemsBytes v)) := by
    show toValue v.toList = .ok (.array ((v.toList.map _).map _))
    rw [List.map_map]
    exact toValue_array fun _ _ => rfl
  have hlist : d'.issuerNamespaces.toList.map (fun e => (e.1, itemsBytes e.2)) =
      d.issuerNamespaces.toList.map fun e => (e.1, itemsBytes e.2) :=
    BTreeMap.toList_map_eq_iff.mpr h.items
  have hvalue (d : Disclosure) : (toValue d.issuerNamespaces : Except String Value) = .ok (.map
      ((d.issuerNamespaces.toList.map fun e => (e.1, itemsBytes e.2)).map
        fun e => (.text e.1, written e.2))) := by
    rw [List.map_map]
    exact toValue_textMap hwritten d.issuerNamespaces
  have hsome (d : Disclosure) :
      ((NonEmptyMap.tryFrom d.issuerNamespaces).map toValue : Option (Except String Value)) =
        if d.issuerNamespaces.isEmpty then none else some (toValue d.issuerNamespaces) := by
    unfold NonEmptyMap.tryFrom
    split <;> rfl
  have hisEmpty : d'.issuerNamespaces.isEmpty = d.issuerNamespaces.isEmpty := by
    rw [← Std.ExtTreeMap.isEmpty_toList, ← Std.ExtTreeMap.isEmpty_toList,
      ← List.isEmpty_map (f := fun e => (e.1, itemsBytes e.2)), hlist, List.isEmpty_map]
  rw [hsome, hsome, hvalue, hvalue, hlist, hisEmpty]

end

end Disclosure

/-! ## responses -/

section
variable [Ciborium] [Coset]

/-- two documents that ask for the same signature, and with any signature are written alike -/
structure PreparedDocument.Alike (d d' : PreparedDocument) : Prop where
  id : d'.id = d.id
  signaturePayload : d'.preparedCose.signaturePayload = d.preparedCose.signaturePayload
  finalize : ∀ signature, (toValue (d'.finalize signature) : Except String Value) =
    toValue (d.finalize signature)

theorem Document.Alike.prepared [Rfc3339] {document document' : Document}
    (h : document.Alike document') (docType : String) (namespaces : BTreeMap String (List String))
    (deviceNamespaces : DeviceNamespacesBytes) (cose : PreparedCose) :
    (document.prepared docType namespaces deviceNamespaces cose).Alike
      (document'.prepared docType namespaces deviceNamespaces cose) := by
  have hdisclosure := Disclosure.alike_ofNamespaces h namespaces
  have hissuerSigned : (toValue (document'.prepared docType namespaces deviceNamespaces
      cose).issuerSigned : Except String Value) =
        toValue (document.prepared docType namespaces deviceNamespaces cose).issuerSigned := by
    show structValue [("nameSpaces", (NonEmptyMap.tryFrom _).map toValue),
        ("issuerAuth", some (toValue document'.issuerAuth))] =
      structValue [("nameSpaces", (NonEmptyMap.tryFrom _).map toValue),
        ("issuerAuth", some (toValue document.issuerAuth))]
    rw [hdisclosure.toValue_tryFrom, h.issuerAuth]
  have herrors : (document'.prepared docType namespaces deviceNamespaces cose).errors =
      (document.prepared docType namespaces deviceNamespaces cose).errors := by
    show NonEmptyMap.tryFrom _ = NonEmptyMap.tryFrom _
    rw [hdisclosure.errors]
  refine ⟨h.id, rfl, fun signature => ?_⟩
  unfold PreparedDocument.finalize
  rw [herrors]
  show structValue [_, ("issuerSigned", some (toValue (document'.prepared docType namespaces
      deviceNamespaces cose).issuerSigned)), _, _] =
    structValue [_, ("issuerSigned", some (toValue (document.prepared docType namespaces
      deviceNamespaces cose).issuerSigned)), _, _]
  rw [hissuerSigned]
  rfl

/-- computations that go on alike after the same value -/
theorem rel_bind_same {α β γ : Type} {R : β → γ → Prop} {x : Option α} {f : α → Option β}
    {g : α → Option γ} (h : ∀ a, Option.Rel R (f a) (g a)) :
    Option.Rel R (x.bind f) (x.bind g) := by
  cases x with
  | none => exact .none
  | some a => exact h a

/-- the documents of two holders, type by type -/
def DocumentsAlike [Rfc3339] (documents documents' : Documents) : Prop :=
  ∀ docType : String,
    Option.Rel Document.Alike (documents.toMap[docType]?) (documents'.toMap[docType]?)

/-- **A document is prepared alike**, or not at all. -/
theorem prepareDocument_alike [Rfc3339] {documents documents' : Documents}
    (h : DocumentsAlike documents documents') (sessionTranscript : SessionTranscript180135)
    (deviceAuthType : DeviceAuthType) (docType : String)
    (namespaces : BTreeMap String (List String)) :
    Option.Rel PreparedDocument.Alike
      (prepareDocument documents sessionTranscript deviceAuthType docType namespaces)
      (prepareDocument documents' sessionTranscript deviceAuthType docType namespaces) := by
  have hdocument := h docType
  unfold prepareDocument
  cases hold : documents.toMap[docType]? with
  | none =>
    rw [hold] at hdocument
    generalize documents'.toMap[docType]? = new at hdocument
    cases hdocument
    exact .none
  | some document =>
    rw [hold] at hdocument
    generalize documents'.toMap[docType]? = new at hdocument
    cases hdocument with
    | some hdocument =>
      simp only [Option.bind_eq_bind, Option.bind_some, hdocument.deviceKey]
      apply rel_bind_same fun signatureAlgorithm => ?_
      apply rel_bind_same fun deviceNamespaces => ?_
      apply rel_bind_same fun deviceAuth => ?_
      apply rel_bind_same fun deviceAuthBytes => ?_
      apply rel_bind_same fun preparedCose => ?_
      exact .some (hdocument.prepared docType namespaces deviceNamespaces preparedCose)

/-- two responses that are prepared and signed alike -/
structure PreparedDeviceResponse.Alike (p p' : PreparedDeviceResponse) : Prop where
  preparedDocuments : List.Forall₂ PreparedDocument.Alike p.preparedDocuments p'.preparedDocuments
  signedDocuments : List.Forall₂ (fun d d' : DeviceResponse.Document =>
    (toValue d' : Except String Value) = toValue d) p.signedDocuments p'.signedDocuments
  documentErrors : (p'.documentErrors.map toValue : Option (Except String Value)) =
    p.documentErrors.map toValue
  status : p'.status = p.status

theorem prepareDocuments_alike [Rfc3339] {documents documents' : Documents}
    (h : DocumentsAlike documents documents') (sessionTranscript : SessionTranscript180135)
    (deviceAuthType : DeviceAuthType) (entries : List (String × BTreeMap String (List String))) :
    List.Forall₂ PreparedDocument.Alike
        (prepareDocuments documents sessionTranscript deviceAuthType entries).1
        (prepareDocuments documents' sessionTranscript deviceAuthType entries).1 ∧
      (prepareDocuments documents' sessionTranscript deviceAuthType entries).2 =
        (prepareDocuments documents sessionTranscript deviceAuthType entries).2 := by
  induction entries with
  | nil => exact ⟨.nil, rfl⟩
  | cons entry entries ih =>
    obtain ⟨docType, namespaces⟩ := entry
    have hrel := prepareDocument_alike h sessionTranscript deviceAuthType docType namespaces
    unfold prepareDocuments
    generalize prepareDocument documents sessionTranscript deviceAuthType docType namespaces = d
      at hrel ⊢
    generalize prepareDocument documents' sessionTranscript deviceAuthType docType namespaces = d'
      at hrel ⊢
    cases hrel with
    | none => exact ⟨ih.1, congrArg (dataNotReturned docType :: ·) ih.2⟩
    | some hdocument => exact ⟨.cons hdocument ih.1, ih.2⟩

/-- **A response is prepared alike.** -/
theorem sessionPrepareResponse_alike [Rfc3339] {documents documents' : Documents}
    (h : DocumentsAlike documents documents') (sessionTranscript : SessionTranscript180135)
    (deviceAuthType : DeviceAuthType) (requests : RequestedItems) (permitted : PermittedItems) :
    (sessionPrepareResponse documents sessionTranscript deviceAuthType requests permitted).Alike
      (sessionPrepareResponse documents' sessionTranscript deviceAuthType requests permitted) := by
  obtain ⟨hprepared, herrors⟩ := prepareDocuments_alike h sessionTranscript deviceAuthType
    (filterPermitted requests permitted).toList
  refine ⟨hprepared, .nil, ?_, rfl⟩
  show (NonEmptyVec.tryFrom _).map toValue = (NonEmptyVec.tryFrom _).map toValue
  rw [herrors]

namespace PreparedDeviceResponse

variable {p p' : PreparedDeviceResponse}

theorem Alike.isComplete (h : p.Alike p') : p'.isComplete = p.isComplete := by
  unfold PreparedDeviceResponse.isComplete
  have hlength := h.preparedDocuments.length_eq
  rw [Bool.eq_iff_iff, List.isEmpty_iff_length_eq_zero, List.isEmpty_iff_length_eq_zero, hlength]

theorem rel_getLast? {α β : Type} {R : α → β → Prop} {l : List α} {l' : List β}
    (h : List.Forall₂ R l l') : Option.Rel R l.getLast? l'.getLast? := by
  have hreverse := List.rel_reverse h
  rw [← List.head?_reverse, ← List.head?_reverse]
  generalize l.reverse = r at hreverse ⊢
  generalize l'.reverse = r' at hreverse ⊢
  cases hreverse with
  | nil => exact .none
  | cons hlast _ => exact .some hlast

theorem Alike.getNextSignaturePayload (h : p.Alike p') :
    p'.getNextSignaturePayload = p.getNextSignaturePayload := by
  have hlast := rel_getLast? h.preparedDocuments
  unfold PreparedDeviceResponse.getNextSignaturePayload
  generalize p.preparedDocuments.getLast? = last at hlast ⊢
  generalize p'.preparedDocuments.getLast? = last' at hlast ⊢
  cases hlast with
  | none => rfl
  | some hdoc => rw [Option.map_some, Option.map_some, hdoc.id, hdoc.signaturePayload]

theorem Alike.submitNextSignature (h : p.Alike p') (signature : Bytes) :
    (p.submitNextSignature signature).Alike (p'.submitNextSignature signature) := by
  have hlast := rel_getLast? h.preparedDocuments
  unfold PreparedDeviceResponse.submitNextSignature
  generalize p.preparedDocuments.getLast? = last at hlast ⊢
  generalize p'.preparedDocuments.getLast? = last' at hlast ⊢
  cases hlast with
  | none => exact h
  | some hdoc =>
    refine ⟨?_, ?_, h.documentErrors, h.status⟩
    · show List.Forall₂ _ p.preparedDocuments.dropLast p'.preparedDocuments.dropLast
      rw [List.dropLast_eq_take, List.dropLast_eq_take, h.preparedDocuments.length_eq]
      exact List.forall₂_take _ h.preparedDocuments
    · exact List.rel_append h.signedDocuments (.cons (hdoc.finalize signature) .nil)

theorem toValue_list {α : Type} [Serialize α] {l l' : List α}
    (h : List.Forall₂ (fun a a' => (toValue a' : Except String Value) = toValue a) l l') :
    (toValue l' : Except String Value) = toValue l := by
  have hmap : l'.mapM toValue = (l.mapM toValue : Except String (List Value)) := by
    induction h with
    | nil => rfl
    | cons ha _ ih => rw [List.mapM_cons, List.mapM_cons, ha, ih]
  exact congrArg (Value.array <$> ·) hmap

theorem toValue_tryFrom {α : Type} [Serialize α] {l l' : List α}
    (h : List.Forall₂ (fun a a' => (toValue a' : Except String Value) = toValue a) l l') :
    (NonEmptyVec.tryFrom l').map toValue =
      ((NonEmptyVec.tryFrom l).map toValue : Option (Except String Value)) := by
  have hvalue := toValue_list h
  cases h with
  | nil => rfl
  | cons ha htail => exact congrArg some hvalue

/-- **Responses that are alike are written alike.** -/
theorem Alike.toVec_finalizeResponse (h : p.Alike p') :
    toVec p'.finalizeResponse = toVec p.finalizeResponse := by
  have hdocuments := toValue_tryFrom h.signedDocuments
  have hvalue : (toValue p'.finalizeResponse : Except String Value) = toValue p.finalizeResponse := by
    unfold PreparedDeviceResponse.finalizeResponse
    rw [h.isComplete, h.status]
    cases p.isComplete with
    | false => rfl
    | true =>
      show structValue [_, ("documents", (NonEmptyVec.tryFrom p'.signedDocuments).map toValue),
          ("documentErrors", p'.documentErrors.map toValue), _] =
        structValue [_, ("documents", (NonEmptyVec.tryFrom p.signedDocuments).map toValue),
          ("documentErrors", p.documentErrors.map toValue), _]
      rw [hdocuments, h.documentErrors]
      rfl
  rw [toVec, toVec, hvalue]

end PreparedDeviceResponse

inductive State.Alike : State → State → Prop
  | awaitingRequest : Alike .AwaitingRequest .AwaitingRequest
  | signing {p p' : PreparedDeviceResponse} (h : p.Alike p') : Alike (.Signing p) (.Signing p')
  | readyToRespond (r : Bytes) : Alike (.ReadyToRespond r) (.ReadyToRespond r)

theorem PreparedDeviceResponse.Alike.refl (p : PreparedDeviceResponse) : p.Alike p :=
  ⟨List.forall₂_same.mpr fun _ _ => ⟨rfl, rfl, fun _ => rfl⟩,
    List.forall₂_same.mpr fun _ _ => rfl, rfl, rfl⟩

theorem State.Alike.refl (state : State) : state.Alike state := by
  cases state with
  | AwaitingRequest => exact .awaitingRequest
  | Signing p => exact .signing (.refl p)
  | ReadyToRespond r => exact .readyToRespond r

end

/-! ## sessions -/

namespace SessionManager

section
variable [Ciborium] [Coset] [Rfc3339]

/-- two sessions that differ in how their documents are held -/
inductive Alike (sm : SessionManager) : SessionManager → Prop
  | mk {documents : Documents} {state : State} (hdocuments : DocumentsAlike sm.documents documents)
      (hstate : sm.state.Alike state) : Alike sm { sm with documents, state }

end

section
variable [Ciborium] [Coset] [Rfc3339] [X509Cert] [P256] [Sha2] [Clock] [AesGcm] {sm sm' : SessionManager}

theorem Alike.prepareResponse (h : sm.Alike sm') (requests : RequestedItems)
    (permitted : PermittedItems) :
    (sm.prepareResponse requests permitted).Alike (sm'.prepareResponse requests permitted) := by
  cases h with
  | mk hdocuments _ =>
    exact .mk hdocuments
      (.signing (sessionPrepareResponse_alike hdocuments _ _ requests permitted))

/-- **A request is answered alike**, and leaves the sessions alike. -/
theorem Alike.handleDecodedRequest (h : sm.Alike sm') (request : SessionData) :
    (sm'.handleDecodedRequest request).1 = (sm.handleDecodedRequest request).1 ∧
      (sm.handleDecodedRequest request).2.Alike (sm'.handleDecodedRequest request).2 := by
  cases h with
  | mk hdocuments hstate =>
    unfold SessionManager.handleDecodedRequest
    cases request.data with
    | none => exact ⟨rfl, .mk hdocuments hstate⟩
    | some data =>
      dsimp only
      generalize decryptReaderData sm.skReader data.bytes sm.readerMessageCounter = decrypted
      obtain ⟨plaintext, count⟩ := decrypted
      cases plaintext with
      | none => exact ⟨rfl, .mk hdocuments hstate⟩
      | some plaintext =>
        dsimp only
        cases parseRequest plaintext with
        | error e => exact ⟨rfl, .mk hdocuments (.signing (.refl e))⟩
        | ok request => exact ⟨rfl, .mk hdocuments hstate⟩

theorem Alike.handleRequest (h : sm.Alike sm') (request : Bytes) :
    (sm'.handleRequest request).1 = (sm.handleRequest request).1 ∧
      (sm.handleRequest request).2.Alike (sm'.handleRequest request).2 := by
  unfold SessionManager.handleRequest
  cases fromSlice SessionData request with
  | error e => exact ⟨rfl, h⟩
  | ok sessionData => exact h.handleDecodedRequest sessionData

theorem Alike.getNextSignaturePayload (h : sm.Alike sm') :
    sm'.getNextSignaturePayload = sm.getNextSignaturePayload := by
  cases h with
  | mk _ hstate =>
    unfold SessionManager.getNextSignaturePayload
    generalize sm.state = state at hstate ⊢
    cases hstate with
    | awaitingRequest => rfl
    | signing hp => exact hp.getNextSignaturePayload
    | readyToRespond r => rfl

theorem Alike.responseReady (h : sm.Alike sm') : sm'.responseReady = sm.responseReady := by
  cases h with
  | mk _ hstate =>
    unfold SessionManager.responseReady
    generalize sm.state = state at hstate ⊢
    cases hstate <;> rfl

/-- **A response is handed out alike.** -/
theorem Alike.retrieveResponse (h : sm.Alike sm') :
    sm'.retrieveResponse.1 = sm.retrieveResponse.1 ∧
      sm.retrieveResponse.2.Alike sm'.retrieveResponse.2 := by
  obtain ⟨documents, sessionTranscript, skDevice, deviceMessageCounter, skReader,
    readerMessageCounter, state, trustedVerifiers, deviceAuthType⟩ := sm
  cases h with
  | mk hdocuments hstate =>
    cases hstate with
    | awaitingRequest => exact ⟨rfl, .mk hdocuments .awaitingRequest⟩
    | signing hp => exact ⟨rfl, .mk hdocuments (.signing hp)⟩
    | readyToRespond r => exact ⟨rfl, .mk hdocuments .awaitingRequest⟩

/-- what two calls of `submit_next_signature` leave -/
structure Submitted.Alike (s s' : Submitted) : Prop where
  result : s'.result = s.result
  sm : s.sm.Alike s'.sm
  sealing : s'.sealing = s.sealing

/-- **A response is encrypted alike.** -/
theorem Alike.encryptResponse (h : sm.Alike sm') {response response' : DeviceResponse}
    (hresponse : toVec response' = toVec response) :
    Option.Rel Submitted.Alike (sm.encryptResponse response) (sm'.encryptResponse response') := by
  cases h with
  | mk hdocuments hstate =>
    unfold SessionManager.encryptResponse
    rw [hresponse]
    cases toVec response with
    | error e => exact .some ⟨rfl, .mk hdocuments hstate, rfl⟩
    | ok bytes =>
      dsimp only
      cases fromSlice DeviceResponse bytes with
      | error e => exact .none
      | ok response2 =>
        dsimp only
        cases toVec response2 with
        | error e => exact .some ⟨rfl, .mk hdocuments hstate, rfl⟩
        | ok bytes2 =>
          dsimp only
          by_cases hne : bytes ≠ bytes2
          · rw [if_pos hne, if_pos hne]
            exact .none
          · rw [if_neg hne, if_neg hne]
            generalize encryptDeviceData sm.skDevice bytes sm.deviceMessageCounter = encrypted
            obtain ⟨sealing, count⟩ := encrypted
            dsimp only
            split
            · exact .some ⟨rfl, .mk hdocuments hstate, rfl⟩
            · exact .some ⟨rfl, .mk hdocuments (.readyToRespond _), rfl⟩

/-- **A signature is taken alike**, or panics in both. -/
theorem Alike.submitNextSignature (h : sm.Alike sm') (signature : Bytes) :
    Option.Rel Submitted.Alike (sm.submitNextSignature signature)
      (sm'.submitNextSignature signature) := by
  obtain ⟨documents, sessionTranscript, skDevice, deviceMessageCounter, skReader,
    readerMessageCounter, state, trustedVerifiers, deviceAuthType⟩ := sm
  cases h with
  | mk hdocuments hstate =>
    cases hstate with
    | awaitingRequest => exact .some ⟨rfl, .mk hdocuments .awaitingRequest, rfl⟩
    | readyToRespond r => exact .some ⟨rfl, .mk hdocuments (.readyToRespond r), rfl⟩
    | signing hp =>
      have hsubmitted := hp.submitNextSignature signature
      unfold SessionManager.submitNextSignature
      dsimp only
      rw [hsubmitted.isComplete]
      split
      · have hawaiting : Alike ⟨documents, sessionTranscript, skDevice, deviceMessageCounter, skReader,
            readerMessageCounter, .AwaitingRequest, trustedVerifiers, deviceAuthType⟩ _ :=
          .mk hdocuments .awaitingRequest
        exact hawaiting.encryptResponse hsubmitted.toVec_finalizeResponse
      · exact .some ⟨rfl, .mk hdocuments (.signing hsubmitted), rfl⟩

/-- what an operation leaves of two sessions: the same ciphertexts and messages -/
structure EffectAlike (e e' : Effect SessionManager) : Prop where
  sm : e.sm.Alike e'.sm
  exchanged : e' = { e with sm := e'.sm }

/-- **Every operation keeps two sessions alike.** -/
theorem Alike.step (h : sm.Alike sm') (op : Operation) :
    Option.Rel EffectAlike (sm.step op) (sm'.step op) := by
  have hopened (ciphertext : Option Bytes) : sm'.opened ciphertext = sm.opened ciphertext := by
    cases h
    rfl
  cases op with
  | handleDecodedRequest request =>
    refine .some ⟨(h.handleDecodedRequest request).2, ?_⟩
    rw [hopened]
  | handleRequest request =>
    refine .some ⟨(h.handleRequest request).2, ?_⟩
    rw [hopened]
  | prepareResponse requests permitted =>
    exact .some ⟨h.prepareResponse requests permitted, rfl⟩
  | getNextSignaturePayload => exact .some ⟨h, rfl⟩
  | submitNextSignature signature =>
    have hrel := h.submitNextSignature signature
    unfold SessionManager.step
    dsimp only
    generalize sm.submitNextSignature signature = s at hrel ⊢
    generalize sm'.submitNextSignature signature = s' at hrel ⊢
    cases hrel with
    | none => exact .none
    | some hsubmitted =>
      refine .some ⟨hsubmitted.sm, ?_⟩
      dsimp only
      rw [hsubmitted.sealing]
  | responseReady => exact .some ⟨h, rfl⟩
  | retrieveResponse =>
    refine .some ⟨h.retrieveResponse.2, ?_⟩
    rw [h.retrieveResponse.1]

end

end SessionManager

section
variable [Ciborium] [Coset] [LawfulRfc3339] [LawfulStandardBase64]

/-- `documents'` was read back from the strings that `documents` was stored as -/
def Restores (documents documents' : Documents) : Prop :=
  ∀ docType : String, Option.Rel
    (fun d d' : Document => d.Storable ∧ ∃ s, Stringify.stringify d = .ok s ∧
      Stringify.parse Document s = .ok d')
    (documents.toMap[docType]?) (documents'.toMap[docType]?)

theorem Document.alike_of_restored {d d' : Document} (h : d.Storable) {s : String}
    (hs : Stringify.stringify d = .ok s) (hparse : Stringify.parse Document s = .ok d') :
    d.Alike d' := by
  obtain ⟨v, hv⟩ := Document.rereadsAs (n := 0) h
  obtain ⟨s', d'', hs', hparse', -, hback⟩ :=
    Stringify.parse_stringify hv (h.ciborium v hv.written)
  rw [hs] at hs'
  rw [← Except.ok.inj hs', hparse] at hparse'
  rw [Except.ok.inj hparse']
  exact Document.alike_of_toValue hv.written hback

theorem Restores.alike {documents documents' : Documents} (h : Restores documents documents') :
    DocumentsAlike documents documents' := by
  intro docType
  have hdocument := h docType
  generalize documents.toMap[docType]? = d at hdocument ⊢
  generalize documents'.toMap[docType]? = d' at hdocument ⊢
  cases hdocument with
  | none => exact .none
  | some hd =>
    obtain ⟨hstorable, s, hs, hparse⟩ := hd
    exact .some (Document.alike_of_restored hstorable hs hparse)

end

end Device

/-! ## runs -/

namespace System

section
variable [Ciborium] [Coset] [LawfulRfc3339] [X509Cert] [P256] [Sha2] [Clock]

/-- two systems whose device sessions are alike -/
inductive Alike (s : System) : System → Prop
  | mk {device : Device.SessionManager} (h : s.device.Alike device) : Alike s { s with device }

/-- **Every action keeps two systems alike.** -/
theorem Alike.step (aead : List Sealing → AesGcm) {s s' : System} (h : s.Alike s') (a : Action) :
    Option.Rel Alike (s.step aead a) (s'.step aead a) := by
  cases h with
  | mk hdevice =>
    let _ := aead s.log
    unfold System.step
    cases a with
    | reader op =>
      show Option.Rel Alike ((s.reader.step op).map s.readerEffect)
        ((s.reader.step op).map (readerEffect { s with device := _ }))
      cases s.reader.step op with
      | none => exact .none
      | some e => exact .some (.mk hdevice)
    | device op =>
      have hrel := hdevice.step op
      show Option.Rel Alike ((s.device.step op).map s.deviceEffect)
        ((Device.SessionManager.step _ op).map (deviceEffect { s with device := _ }))
      generalize s.device.step op = e at hrel ⊢
      generalize Device.SessionManager.step _ op = e' at hrel ⊢
      cases hrel with
      | none => exact .none
      | some heffect =>
        rw [Option.map_some, Option.map_some, heffect.exchanged]
        exact .some (.mk heffect.sm)

/-- what both parties can tell of two systems is the same -/
structure Indistinct [AesGcm] (s s' : System) : Prop where
  exchanged : s' = { s with device := s'.device }
  handleRequest : ∀ request, (s'.device.handleRequest request).1 = (s.device.handleRequest request).1
  getNextSignaturePayload : s'.device.getNextSignaturePayload = s.device.getNextSignaturePayload
  submitNextSignature : ∀ signature,
    (s'.device.submitNextSignature signature).map (fun c => (c.result, c.sealing)) =
      (s.device.submitNextSignature signature).map fun c => (c.result, c.sealing)
  responseReady : s'.device.responseReady = s.device.responseReady
  retrieveResponse : s'.device.retrieveResponse.1 = s.device.retrieveResponse.1

theorem Alike.indistinct [AesGcm] {s s' : System} (h : s.Alike s') : s.Indistinct s' := by
  cases h with
  | mk hdevice =>
    refine ⟨rfl, fun request => (hdevice.handleRequest request).1, hdevice.getNextSignaturePayload,
      fun signature => ?_, hdevice.responseReady, hdevice.retrieveResponse.1⟩
    have hrel := hdevice.submitNextSignature signature
    dsimp only
    generalize s.device.submitNextSignature signature = c at hrel ⊢
    generalize Device.SessionManager.submitNextSignature _ signature = c' at hrel ⊢
    cases hrel with
    | none => rfl
    | some hsubmitted => rw [Option.map_some, Option.map_some, hsubmitted.result, hsubmitted.sealing]

end

section
variable [Ciborium] [Coset] [LawfulRfc3339] [LawfulStandardBase64] [X509Cert] [P256] [Sha2] [Clock]

/-- **A device presents from restored documents as from its own.**  Whatever the AEAD and whatever
either session does, a run of two sessions goes on, stops or panics as it does when the device's
documents were stored and read back: the same ciphertexts pass, and every call of either session
returns the same. -/
theorem restored_agrees (aead : List Sealing → AesGcm) (reader : Reader.SessionManager)
    {device : Device.SessionManager} {documents : Device.Documents}
    (hrestores : Device.Restores device.documents documents) (as : List Action) :
    Option.Rel (fun s s' => letI := aead s.log; Indistinct s s')
      (Run.after (step aead) (start reader device) as)
      (Run.after (step aead) (start reader { device with documents }) as) := by
  have hstart : (start reader device).Alike (start reader { device with documents }) :=
    .mk (.mk hrestores.alike (.refl device.state))
  have hrel := Run.after_rel (fun _ _ a h => Alike.step aead h a) hstart as
  generalize Run.after (step aead) (start reader device) as = after at hrel ⊢
  generalize Run.after (step aead) _ as = after' at hrel ⊢
  cases hrel with
  | none => exact .none
  | @some s s' halike =>
    let _ := aead s.log
    exact .some halike.indistinct

end

section
open Reference.Time

local instance restoredCiborium : Ciborium := Reference.ciborium
local instance restoredCoset : Coset := Reference.coset
local instance restoredBase64 : LawfulStandardBase64 := Reference.lawfulStandardBase64
local instance restoredX509Cert : X509Cert := Reference.x509Cert
local instance restoredP256 : P256 := Reference.p256
local instance restoredSha2 : Sha2 := Reference.sha2
local instance restoredClock : Clock := Reference.clock

theorem Sample.restores : ∃ documents,
    Device.Restores Device.Sample.readableSession.documents documents := by
  obtain ⟨v, hv⟩ := Device.Document.rereadsAs (n := 0) Device.Sample.readableDocument_storable
  obtain ⟨s, d, hs, hparse, -, -⟩ := Stringify.parse_stringify hv
    (Device.Sample.readableDocument_storable.ciborium v hv.written)
  refine ⟨NonEmptyMap.new "org.iso.18013.5.1.mDL" d, fun docType => ?_⟩
  show Option.Rel _
    ((∅ : BTreeMap String Device.Document).insert _ Device.Sample.readableDocument)[docType]?
    ((∅ : BTreeMap String Device.Document).insert _ d)[docType]?
  rw [BTreeMap.getElem?_insert, BTreeMap.getElem?_insert]
  split
  · exact .some ⟨Device.Sample.readableDocument_storable, s, hs, hparse⟩
  · exact .none

/-- `aes-gcm`, whatever was sealed -/
@[reducible] def Sample.aead (_ : List Sealing) : AesGcm := Reference.lawfulAesGcm.toAesGcm

theorem restored_agrees_sample : ∃ documents s s',
    Device.Restores Device.Sample.readableSession.documents documents ∧
      Run.after (step Sample.aead) (start Sample.reader Device.Sample.readableSession)
        Sample.answering = some s ∧
      Run.after (step Sample.aead)
        (start Sample.reader { Device.Sample.readableSession with documents }) Sample.answering =
          some s' ∧
      (let _ := Sample.aead s.log; Indistinct s s') := by
  obtain ⟨documents, hrestores⟩ := Sample.restores
  have hsome : (Run.after (step Sample.aead)
      (start Sample.reader Device.Sample.readableSession) Sample.answering).isSome := by
    decide +kernel
  obtain ⟨s, hs⟩ := Option.isSome_iff_exists.mp hsome
  have hrel := restored_agrees Sample.aead Sample.reader hrestores Sample.answering
  rw [hs] at hrel
  generalize hs' : Run.after _ (start _ { Device.Sample.readableSession with documents }) _ = after'
    at hrel
  cases hrel with
  | some h => exact ⟨documents, s, _, hrestores, hs, hs', h⟩

end

end System

end Isomdl
