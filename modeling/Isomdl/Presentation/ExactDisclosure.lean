import Isomdl.Presentation.ResponseAgreement
import Isomdl.Presentation.ResponseCoverage

/-!
# What the reader is shown

`filter_permitted` picks the elements of a response, the device looks them up in what it holds, and
the reader parses what it decodes.  Between two paired sessions nothing else happens to them: the
values that are shown are those of the elements that survive, as they are held, where they parse.

* `AnswersCall.discloses`                the items of a response, by the call that it answers;
* `showsExactly_of_disclosesHeld`        what is parsed of them;
* `disclosure_agrees`                    in every run.
-/

set_option linter.unusedSectionVars false

namespace Isomdl

open Cbor

/-! ## the items of a response -/

namespace Device

/-- every document that is held keeps its items under the identifiers in their bytes -/
def Indexed [Ciborium] (documents : Documents) : Prop :=
  ∀ (docType : String) (document : Document), documents.toMap[docType]? = some document →
    ∀ ns element t, document.held ns element = some t →
      ∀ inner, fromSlice IssuerSignedItem t.innerBytes = .ok inner →
        inner.elementIdentifier = element

/-- the items of a decoded document are those that are held under the elements that survive -/
structure DisclosesHeld [Ciborium] (requests : RequestedItems) (permitted : PermittedItems)
    (held : Document) (decoded : DeviceResponse.Document) : Prop where
  sound : ∀ ns, ∀ item ∈ itemsOf decoded.issuerSigned.namespaces ns, ∃ element t,
    Survives requests permitted decoded.docType ns element ∧ held.held ns element = some t ∧
      SameBytes t item
  complete : ∀ ns element t, Survives requests permitted decoded.docType ns element →
    held.held ns element = some t →
      ∃ item ∈ itemsOf decoded.issuerSigned.namespaces ns, SameBytes t item

theorem submitted_calls (signatures : List Bytes) :
    SigningCall.signatures (signatures.map .submitNextSignature) = signatures := by
  induction signatures with
  | nil => rfl
  | cons signature signatures ih =>
    rw [List.map_cons, SigningCall.signatures, ih]

section
variable [Ciborium] [Coset] [CosetHeader] [FaithfulCiborium] [LawfulCoset]

/-- what a prepared document discloses, decoded -/
theorem disclosesHeld_of_prepared {documents : Documents}
    {sessionTranscript : SessionTranscript180135} {deviceAuthType : DeviceAuthType}
    {requests : RequestedItems} {permitted : PermittedItems} {d : PreparedDocument}
    {signature : Bytes} {decoded : DeviceResponse.Document}
    (hd : d ∈ (sessionPrepareResponse documents sessionTranscript deviceAuthType requests
      permitted).preparedDocuments) (hkept : DocumentKept (d.finalize signature) decoded) :
    ∃ held, documents.toMap[decoded.docType]? = some held ∧
      DisclosesHeld requests permitted held decoded := by
  obtain ⟨namespaces, hnamespaces, hprepared⟩ := mem_preparedDocuments.mp hd
  obtain ⟨held, hheld, -, hitems, -⟩ := prepareDocument_spec hprepared
  have htype : decoded.docType = d.docType := hkept.docType
  have hsurvives (ns element : String) : Survives requests permitted d.docType ns element ↔
      ∃ elements, namespaces[ns]? = some elements ∧ element ∈ elements := by
    constructor
    · intro h
      obtain ⟨namespaces', elements, hnamespaces', helements, hmem⟩ := h
      rw [hnamespaces] at hnamespaces'
      cases hnamespaces'
      exact ⟨elements, helements, hmem⟩
    · intro h
      obtain ⟨elements, helements, hmem⟩ := h
      exact ⟨namespaces, elements, hnamespaces, helements, hmem⟩
  refine ⟨held, htype ▸ hheld, ?_, ?_⟩
  · intro ns item hitem
    have hall := hkept.namespaces ns
    obtain ⟨j, hj, rfl⟩ := List.getElem_of_mem hitem
    have hj' := hall.length_eq ▸ hj
    have hsame := hall.get hj' hj
    rw [List.get_eq_getElem, List.get_eq_getElem] at hsame
    obtain ⟨elements, helements, element, helement, hfound⟩ :=
      (hitems ns _).mp (List.getElem_mem hj')
    rw [htype]
    exact ⟨element, _, (hsurvives ns element).mpr ⟨elements, helements, helement⟩, hfound, hsame⟩
  · intro ns element t hsurvived hfound
    rw [htype] at hsurvived
    obtain ⟨elements, helements, helement⟩ := (hsurvives ns element).mp hsurvived
    have hmem : t ∈ itemsOf (d.finalize signature).issuerSigned.namespaces ns :=
      (hitems ns t).mpr ⟨elements, helements, element, helement, hfound⟩
    have hall := hkept.namespaces ns
    obtain ⟨j, hj, rfl⟩ := List.getElem_of_mem hmem
    have hj' := hall.length_eq ▸ hj
    have hsame := hall.get hj hj'
    rw [List.get_eq_getElem, List.get_eq_getElem] at hsame
    exact ⟨_, List.getElem_mem hj', hsame⟩

/-- **The documents of a response disclose what survived of the call that it answers.** -/
theorem AnswersCall.discloses {sm : SessionManager} {ops : List Operation} {n : ℕ}
    {plaintext : Bytes} (h : AnswersCall sm ops n plaintext) {response : DeviceResponse}
    (hread : fromSlice DeviceResponse plaintext = .ok response) :
    ∃ requests permitted, ops[n]? = some (.prepareResponse requests permitted) ∧
      ∀ document ∈ response.documentList, ∃ held,
        sm.documents.toMap[document.docType]? = some held ∧
          DisclosesHeld requests permitted held document := by
  obtain ⟨requests, permitted, after, rest, hdrop, -, -, hbytes, -⟩ := h
  refine ⟨requests, permitted, ?_, fun document hdocument => ?_⟩
  · have hget : (ops.drop n)[0]? = some (.prepareResponse requests permitted) := by
      rw [hdrop]
      rfl
    rw [List.getElem?_drop, Nat.add_zero] at hget
    exact hget
  · have hcalls := PreparedDeviceResponse.calls_eq (sm.prepares requests permitted)
      ((submitted after).map .submitNextSignature)
    rw [submitted_calls] at hcalls
    rw [← hcalls] at hbytes
    have hkept := decodes_deviceResponse.fromSlice hbytes hread
    obtain ⟨i, hi, rfl⟩ := List.getElem_of_mem hdocument
    have hi' := hkept.length_eq ▸ hi
    have hdoc := hkept.get hi' hi
    rw [List.get_eq_getElem, List.get_eq_getElem] at hdoc
    obtain ⟨d, hd, signature, hfinal⟩ := mem_documentList_finalizeResponse rfl (List.getElem_mem hi')
    rw [hfinal] at hdoc
    exact disclosesHeld_of_prepared hd hdoc

end

end Device

/-! ## what is parsed of them -/

namespace Reader

/-- the value is shown for the element -/
def Shows (response : BTreeMap String Json) (ns element : String) (value : Json) : Prop :=
  ∃ fields, response[ns]? = some (.object fields) ∧ (element, value) ∈ fields

/-- the namespaces that are parsed -/
theorem parseNamespaces_keys {deviceResponse : DeviceResponse} {parsed : BTreeMap String Json}
    (h : parseNamespaces deviceResponse = some (.ok parsed)) {ns : String} {json : Json}
    (hjson : parsed[ns]? = some json) : ns ∈ [CORE_NAMESPACE, AAMVA_NAMESPACE] := by
  have hcoreOnly (core : Json) (h' : ((∅ : BTreeMap String Json).insert CORE_NAMESPACE core)[ns]? =
      some json) : ns = CORE_NAMESPACE := by
    by_contra hne
    rw [BTreeMap.getElem?_insert, if_neg hne] at h'
    cases h'
  unfold parseNamespaces at h
  cases hdoc : getDocument deviceResponse with
  | error e =>
    rw [hdoc] at h
    cases h
  | ok document =>
    simp only [hdoc] at h
    cases hns : document.issuerSigned.namespaces with
    | none =>
      rw [hns] at h
      cases h
    | some namespaces =>
      simp only [hns] at h
      cases hcore : namespaces.toMap[CORE_NAMESPACE]? with
      | none =>
        rw [hcore] at h
        cases h
      | some items =>
        simp only [hcore] at h
        cases hitems : parseItems items.toList ∅ with
        | none =>
          rw [hitems] at h
          cases h
        | some core =>
          simp only [hitems] at h
          cases haamva : namespaces.toMap[AAMVA_NAMESPACE]? with
          | none =>
            simp only [haamva] at h
            cases h
            exact List.mem_cons.mpr (.inl (hcoreOnly _ hjson))
          | some others =>
            simp only [haamva] at h
            cases hothers : parseItems others.toList ∅ with
            | none =>
              rw [hothers] at h
              cases h
            | some aamva =>
              rw [hothers] at h
              cases h
              by_cases hname : ns = AAMVA_NAMESPACE
              · rw [hname]
                exact List.mem_cons_of_mem _ List.mem_cons_self
              · rw [BTreeMap.getElem?_insert, if_neg hname] at hjson
                exact List.mem_cons.mpr (.inl (hcoreOnly _ hjson))

/-- the values that are shown are those of the elements that survive, as they are held, in the
namespaces that the reader knows and where they parse -/
def ShowsExactly [Ciborium] (requests : Device.RequestedItems) (permitted : Device.PermittedItems)
    (held : Device.Document) (response : BTreeMap String Json) : Prop :=
  ∀ ns element value, Shows response ns element value ↔
    ns ∈ [CORE_NAMESPACE, AAMVA_NAMESPACE] ∧
    Device.Survives requests permitted MDL_DOC_TYPE ns element ∧
    ∃ t inner, held.held ns element = some t ∧ fromSlice IssuerSignedItem t.innerBytes = .ok inner ∧
      parseResponse inner.elementValue = some (.ok value)

section
variable [Ciborium]

/-- **What is parsed of a document that discloses what survived.** -/
theorem showsExactly_of_disclosesHeld {requests : Device.RequestedItems}
    {permitted : Device.PermittedItems} {held : Device.Document} {deviceResponse : DeviceResponse}
    {document : DeviceResponse.Document} {parsed : BTreeMap String Json}
    (hdoc : getDocument deviceResponse = .ok document) (htype : document.docType = MDL_DOC_TYPE)
    (hindexed : ∀ ns element t, held.held ns element = some t → ∀ inner,
      fromSlice IssuerSignedItem t.innerBytes = .ok inner → inner.elementIdentifier = element)
    (hdiscloses : Device.DisclosesHeld requests permitted held document)
    (h : parseNamespaces deviceResponse = some (.ok parsed)) :
    ShowsExactly requests permitted held parsed := by
  intro ns element value
  have hitem {item : IssuerSignedItemBytes} (hmem : item ∈ itemsOf document.issuerSigned.namespaces ns)
      (hid : item.inner.elementIdentifier = element) :
      Device.Survives requests permitted MDL_DOC_TYPE ns element ∧
        ∃ t, held.held ns element = some t ∧ SameBytes t item := by
    obtain ⟨element', t, hsurvives, hheld, hsame⟩ := hdiscloses.sound ns item hmem
    have helement : element' = element := by
      rw [← hid, hindexed ns element' t hheld item.inner hsame.2]
    rw [helement] at hsurvives hheld
    exact ⟨htype ▸ hsurvives, t, hheld, hsame⟩
  constructor
  · intro hshows
    obtain ⟨fields, hfields, hvalue⟩ := hshows
    obtain ⟨fields', heq, hholds⟩ := parseNamespaces_ok hdoc h ns _ hfields
    cases heq
    obtain ⟨namespaces, items, item, hnamespaces, hitems, hmem, hid, hparses⟩ :=
      hholds element value hvalue
    have hin : item ∈ itemsOf document.issuerSigned.namespaces ns := by
      rw [itemsOf, hnamespaces, Option.bind_some, hitems]
      exact hmem
    obtain ⟨hsurvives, t, hheld, hsame⟩ := hitem hin hid
    exact ⟨parseNamespaces_keys h hfields, hsurvives, t, item.inner, hheld, hsame.2, hparses⟩
  · intro hheld
    obtain ⟨hread, hsurvives, t, inner, hheld, hinner, hparses⟩ := hheld
    obtain ⟨item, hin, hsame⟩ := hdiscloses.complete ns element t (htype ▸ hsurvives) hheld
    cases hnamespaces : document.issuerSigned.namespaces with
    | none =>
      rw [itemsOf, hnamespaces] at hin
      cases hin
    | some namespaces =>
      cases hitems : namespaces.toMap[ns]? with
      | none =>
        rw [itemsOf, hnamespaces, Option.bind_some, hitems] at hin
        cases hin
      | some items =>
        have hmem (item : IssuerSignedItemBytes) : item ∈ items.toList ↔
            item ∈ itemsOf document.issuerSigned.namespaces ns := by
          rw [itemsOf, hnamespaces, Option.bind_some, hitems]
          rfl
        obtain ⟨values, hvalues, hlookup⟩ := parseNamespaces_lookup hdoc h hread hnamespaces hitems
        refine ⟨values.toList, hlookup, BTreeMap.mem_toList.mpr ?_⟩
        refine parseItems_getElem? hvalues (fun other hother hid => ?_)
          (.inr ⟨item, (hmem item).mpr hin, hindexed ns element t hheld _ hsame.2⟩)
        obtain ⟨-, t', hheld', hsame'⟩ := hitem ((hmem other).mp hother) hid
        rw [hheld] at hheld'
        cases hheld'
        have hboth := hsame'.2
        rw [hinner] at hboth
        cases hboth
        exact hparses

end

end Reader

/-! ## in a run -/

namespace System

section
variable [LawfulCiborium] [FaithfulCiborium] [Coset] [CosetHeader] [LawfulCoset] [Rfc3339]
  [X509Cert] [P256] [Sha2] [Clock]

/-- **The reader is shown exactly what survived.**  The device keeps its items under the identifiers
in their bytes.  In every run of two sessions that share their keys, with the ideal AEAD and whatever
bytes arrive: a message that the reader is handed is rejected, or its plaintext is the answer to a
call of `prepare_response`, and the outcome shows, of the elements that survive in this call and no
others, the values that the holder's mDL has for them, in the namespaces that the reader knows and
where they parse. -/
theorem disclosure_agrees (sealWith : SessionKey → Nonce → Bytes → Option Bytes) {p : Pairing}
    (hidle : p.device.Idle) (hindexed : Device.Indexed p.device.documents) :
    Run.Recorded (System.step (idealAead sealWith)) (System.start p.reader p.device) fun as s =>
      letI := idealAead sealWith s.log
      ∀ message handled, s.reader.handleResponse message = some handled →
        (∃ kind e, handled.1 = .error kind e) ∨ ∃ n plaintext requests permitted held,
          s.reader.opened (carriedCiphertext message) = some plaintext ∧
          Device.AnswersCall p.device (deviceOperations as) n plaintext ∧
          (deviceOperations as)[n]? = some (.prepareResponse requests permitted) ∧
          p.device.documents.toMap[Reader.MDL_DOC_TYPE]? = some held ∧
          Reader.ShowsExactly requests permitted held handled.1.response := by
  refine (recorded sealWith hidle).mono fun as s h => ?_
  let _ := idealAead sealWith s.log
  intro message handled hhandled
  refine (h.handled hhandled).imp_right fun hanswer => ?_
  obtain ⟨n, plaintext, response, document, x5chain, namespaces, hopened, hanswers, hread, hparse,
    hdocument, htype, hvalid⟩ := hanswer
  obtain ⟨hdoc, -, hnamespaces⟩ := Reader.parse_ok hparse
  obtain ⟨requests, permitted, hop, hdiscloses⟩ := hanswers.discloses hread
  obtain ⟨held, hheld, hdiscloses⟩ := hdiscloses document hdocument
  rw [htype] at hheld
  refine ⟨n, plaintext, requests, permitted, held, hopened, hanswers, hop, hheld, ?_⟩
  rw [hvalid, validateResponse, Reader.validateIssuer_response, Reader.validateDevice_response]
  exact Reader.showsExactly_of_disclosesHeld hdoc htype (hindexed _ held hheld) hdiscloses hnamespaces

end

section
open scoped Reference

namespace Sample

theorem indexed : Device.Indexed pairing.device.documents := by
  intro docType document h ns element t ht inner hinner
  rw [Device.Sample.eq_of_getElem?_new h] at ht
  obtain ⟨items, hns, helement⟩ := Option.bind_eq_some_iff.mp ht
  rw [Device.Sample.eq_of_getElem?_new hns] at helement
  have hkey : element = "family_name" := by
    by_contra hne
    have hinsert : ((∅ : BTreeMap String IssuerSignedItemBytes).insert "family_name"
        Device.Sample.readableItem)[element]? = some t := helement
    rw [BTreeMap.getElem?_insert, if_neg hne] at hinsert
    cases hinsert
  rw [Device.Sample.eq_of_getElem?_new helement] at hinner
  have hread : ((fromSlice IssuerSignedItem Device.Sample.readableItem.innerBytes).toOption.all
      fun inner => inner.elementIdentifier == "family_name") = true := by
    decide +kernel
  rw [hinner] at hread
  rw [hkey]
  exact eq_of_beq hread

/-- the family name is shown, and nothing else of its namespace -/
def showsName (outcome : ResponseAuthenticationOutcome) : Bool :=
  match outcome.response[Reader.CORE_NAMESPACE]? with
  | some (.object [(element, .string value)]) => element == "family_name" && value == "Mustermann"
  | _ => false

theorem shows_of_showsName {outcome : ResponseAuthenticationOutcome} (h : showsName outcome = true) :
    Reader.Shows outcome.response Reader.CORE_NAMESPACE "family_name" (.string "Mustermann") := by
  unfold showsName at h
  split at h
  · next element value hfields =>
    obtain ⟨helement, hvalue⟩ := Bool.and_eq_true _ _ |>.mp h
    rw [eq_of_beq helement, eq_of_beq hvalue] at hfields
    exact ⟨_, hfields, List.mem_cons_self⟩
  · cases h

end Sample

/-- The holder's name is requested, permitted, held and shown. -/
theorem disclosure_agrees_sample :
    ∃ s message handled, Sample.after Sample.pairing Sample.answering = some s ∧
      letI := idealAead Sample.sealWith s.log
      s.reader.handleResponse message = some handled ∧
        Reader.Shows handled.1.response Reader.CORE_NAMESPACE "family_name"
          (.string "Mustermann") ∧ ∃ n plaintext requests permitted held,
          s.reader.opened (carriedCiphertext message) = some plaintext ∧
          Device.AnswersCall Sample.pairing.device (deviceOperations Sample.answering) n
            plaintext ∧
          (deviceOperations Sample.answering)[n]? =
            some (.prepareResponse requests permitted) ∧
          Sample.pairing.device.documents.toMap[Reader.MDL_DOC_TYPE]? = some held ∧
          Reader.ShowsExactly requests permitted held handled.1.response := by
  have hcheck : (Sample.outcomeIn Sample.pairing).any Sample.showsName = true := by decide +kernel
  obtain ⟨s, message, handled, hs, hhandled, hcheck⟩ := Sample.exists_handled hcheck
  have hshows := Sample.shows_of_showsName hcheck
  refine ⟨s, message, handled, hs, hhandled, hshows, ?_⟩
  have hdisclosed := disclosure_agrees Sample.sealWith (p := Sample.pairing) (Sample.holding_idle _)
    Sample.indexed Sample.answering s hs message handled hhandled
  refine hdisclosed.resolve_left fun herror => ?_
  obtain ⟨kind, e, herror⟩ := herror
  rw [herror] at hshows
  obtain ⟨fields, hfields, -⟩ := hshows
  cases hfields

end

end System

end Isomdl
