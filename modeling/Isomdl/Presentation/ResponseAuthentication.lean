import Isomdl.Presentation.Disclosure
import Isomdl.Presentation.Reader
import Isomdl.Reference.X509

/-!
# What an authenticated response vouches for

The reader reports that a response is authentic for its issuer when the chain in the issuer's
signature is valid and the signature verifies over the security object in it.  The digests in that
object are not compared with the items, and neither is its document type, so the verdict is about
the object alone; the values come from the items of the document.

* `parseItems_mem`            every value of a namespace is that of an item;
* `parse_ok`                  what the reader takes from a response;
* `validateResponse_valid`    what a valid verdict says, and where the values come from.
-/

set_option linter.unusedSectionVars false

namespace Isomdl

open Cbor

namespace Reader

/-! ## the values -/

/-- the value of an element in the document -/
def HoldsElement (document : DeviceResponse.Document) (ns elementIdentifier : String)
    (value : Json) : Prop :=
  ∃ namespaces items item, document.issuerSigned.namespaces = some namespaces ∧
    namespaces.toMap[ns]? = some items ∧ item ∈ items.toList ∧
    item.inner.elementIdentifier = elementIdentifier ∧
    parseResponse item.inner.elementValue = some (.ok value)

/-- **Every value of a namespace is that of an item.** -/
theorem parseItems_mem {items : List IssuerSignedItemBytes} {start parsed : BTreeMap String Json}
    (h : parseItems items start = some parsed) {elementIdentifier : String} {value : Json}
    (hmem : parsed[elementIdentifier]? = some value) :
    start[elementIdentifier]? = some value ∨
      ∃ item ∈ items, item.inner.elementIdentifier = elementIdentifier ∧
        parseResponse item.inner.elementValue = some (.ok value) := by
  induction items generalizing start with
  | nil =>
    cases h
    exact .inl hmem
  | cons item items ih =>
    unfold parseItems at h
    cases hval : parseResponse item.inner.elementValue with
    | none =>
      rw [hval] at h
      cases h
    | some result =>
      cases result with
      | error e =>
        simp only [hval] at h
        exact (ih h).imp_right fun ⟨i, hi, hprop⟩ => ⟨i, List.mem_cons_of_mem item hi, hprop⟩
      | ok val =>
        simp only [hval] at h
        cases ih h with
        | inl hstart =>
          rw [BTreeMap.getElem?_insert] at hstart
          split at hstart
          · next heq =>
            cases hstart
            exact .inr ⟨item, List.mem_cons_self, heq.symm, hval⟩
          · exact .inl hstart
        | inr hitem =>
          obtain ⟨i, hi, hprop⟩ := hitem
          exact .inr ⟨i, List.mem_cons_of_mem item hi, hprop⟩

/-- the values of one namespace in the response -/
theorem parseItems_holds {document : DeviceResponse.Document}
    {namespaces : NonEmptyMap String (NonEmptyVec IssuerSignedItemBytes)}
    (hns : document.issuerSigned.namespaces = some namespaces) {ns : String}
    {items : NonEmptyVec IssuerSignedItemBytes} (hitems : namespaces.toMap[ns]? = some items)
    {parsed : BTreeMap String Json} (h : parseItems items.toList ∅ = some parsed)
    {elementIdentifier : String} {value : Json}
    (hmem : (elementIdentifier, value) ∈ parsed.toList) :
    HoldsElement document ns elementIdentifier value := by
  cases parseItems_mem h (BTreeMap.mem_toList.mp hmem) with
  | inl hempty => simp at hempty
  | inr hitem =>
    obtain ⟨item, hi, hid, hval⟩ := hitem
    exact ⟨namespaces, items, item, hns, hitems, hi, hid, hval⟩

/-- the response map: an object for each namespace, with the values of the document's items -/
def ValuesOf (document : DeviceResponse.Document) (response : BTreeMap String Json) : Prop :=
  ∀ ns json, response[ns]? = some json → ∃ fields, json = .object fields ∧
    ∀ elementIdentifier value, (elementIdentifier, value) ∈ fields →
      HoldsElement document ns elementIdentifier value

theorem getDocument_ok {deviceResponse : DeviceResponse} {document : DeviceResponse.Document}
    (h : getDocument deviceResponse = .ok document) :
    ∃ documents, deviceResponse.documents = some documents ∧ document ∈ documents.toList ∧
      document.docType = MDL_DOC_TYPE := by
  unfold getDocument at h
  cases hdocs : deviceResponse.documents with
  | none =>
    rw [hdocs] at h
    cases h
  | some documents =>
    simp only [hdocs] at h
    cases hfind : documents.toList.find? fun doc => doc.docType = MDL_DOC_TYPE with
    | none =>
      rw [hfind] at h
      cases h
    | some doc =>
      rw [hfind] at h
      cases h
      exact ⟨documents, rfl, List.mem_of_find?_eq_some hfind, by
        simpa using List.find?_some hfind⟩

/-- **The response map holds the values of the document's items.** -/
theorem parseNamespaces_ok {deviceResponse : DeviceResponse} {document : DeviceResponse.Document}
    (hdoc : getDocument deviceResponse = .ok document) {parsed : BTreeMap String Json}
    (h : parseNamespaces deviceResponse = some (.ok parsed)) : ValuesOf document parsed := by
  unfold parseNamespaces at h
  simp only [hdoc] at h
  cases hns : document.issuerSigned.namespaces with
  | none =>
    rw [hns] at h
    cases h
  | some namespaces =>
    simp only [hns] at h
    cases hcore : namespaces.toMap[CORE_NAMESPACE]? with
    | none =>
      rw [hcore] at h
      cases h
    | some items =>
      simp only [hcore] at h
      cases hparsed : parseItems items.toList ∅ with
      | none =>
        rw [hparsed] at h
        cases h
      | some core =>
        simp only [hparsed] at h
        have hcoreValues : ValuesOf document
            ((∅ : BTreeMap String Json).insert CORE_NAMESPACE (namespaceJson core)) := by
          intro ns json hget
          rw [BTreeMap.getElem?_insert] at hget
          split at hget
          · next heq =>
            cases hget
            refine ⟨core.toList, rfl, fun elementIdentifier value hmem => ?_⟩
            rw [heq]
            exact parseItems_holds hns hcore hparsed hmem
          · simp at hget
        cases haamva : namespaces.toMap[AAMVA_NAMESPACE]? with
        | none =>
          rw [haamva] at h
          cases h
          exact hcoreValues
        | some items =>
          simp only [haamva] at h
          cases hparsedAamva : parseItems items.toList ∅ with
          | none =>
            rw [hparsedAamva] at h
            cases h
          | some aamva =>
            simp only [hparsedAamva] at h
            cases h
            intro ns json hget
            rw [BTreeMap.getElem?_insert] at hget
            split at hget
            · next heq =>
              cases hget
              refine ⟨aamva.toList, rfl, fun elementIdentifier value hmem => ?_⟩
              rw [heq]
              exact parseItems_holds hns haamva hparsedAamva hmem
            · exact hcoreValues ns json hget

section
variable [X509Cert]

/-- **What the reader takes from a response**: its first document of the type it asked for, the
chain in that document's issuer signature, and the values of its items. -/
theorem parse_ok {deviceResponse : DeviceResponse} {document : DeviceResponse.Document}
    {x5chain : X5Chain} {namespaces : BTreeMap String Json}
    (h : parse deviceResponse = some (.ok (document, x5chain, namespaces))) :
    getDocument deviceResponse = .ok document ∧ issuerX5Chain document = .ok x5chain ∧
      parseNamespaces deviceResponse = some (.ok namespaces) := by
  unfold parse at h
  cases hdoc : getDocument deviceResponse with
  | error e =>
    rw [hdoc] at h
    cases h
  | ok doc =>
    simp only [hdoc] at h
    cases hchain : issuerX5Chain doc with
    | error e =>
      rw [hchain] at h
      cases h
    | ok chain =>
      simp only [hchain] at h
      cases hns : parseNamespaces deviceResponse with
      | none =>
        rw [hns] at h
        cases h
      | some result =>
        cases result with
        | error e =>
          rw [hns] at h
          cases h
        | ok parsed =>
          rw [hns] at h
          cases h
          exact ⟨rfl, hchain, rfl⟩

end

/-! ## the verdict -/

section
variable [Ciborium] [Coset] [Rfc3339] [X509Cert] [P256] [Sha2] [Clock]

/-- the issuer's signature verifies over the attached security object, with the P-256 key of the leaf
of the chain -/
def SignatureVerifies (x5chain : X5Chain) (issuerAuth : CoseSign1) : Prop :=
  ∃ key payload signature, x5chain.endEntityPublicKeyWithOid Oid.SECP_256_R_1 = .ok key ∧
    issuerAuth.payload = some payload ∧
    algorithmMismatch issuerAuth.protectedHeader.header .ES256 = false ∧
    P256.signatureFromSlice issuerAuth.signature = .ok signature ∧
    P256.verifyPrehashed key (Sha2.sha256 (Coset.sigStructureData .coseSign1
      issuerAuth.protectedHeader none [] payload)) signature = .ok ()

/-- the chain is one that the trust anchors accept, and the issuer's signature verifies -/
structure IssuerVerified (trustAnchorRegistry : TrustAnchorRegistry) (x5chain : X5Chain)
    (document : DeviceResponse.Document) : Prop where
  chain : ValidationRuleset.Mdl.validate x5chain trustAnchorRegistry = []
  signature : SignatureVerifies x5chain document.issuerSigned.issuerAuth.inner

theorem issuerAuthentication_ok_iff {x5chain : X5Chain} {issuerSigned : IssuerSigned} :
    issuerAuthentication x5chain issuerSigned = .ok () ↔
      SignatureVerifies x5chain issuerSigned.issuerAuth.inner := by
  rw [issuerAuthentication_eq_ok]
  constructor
  · intro ⟨key, hkey, hverify⟩
    obtain ⟨halg, payload, signature, hpayload, hsig, hok⟩ := verify_eq_success.mp hverify
    rw [onePayload_none] at hpayload
    exact ⟨key, payload, signature, hkey, hpayload, halg, hsig, hok⟩
  · intro ⟨key, payload, signature, hkey, hpayload, halg, hsig, hok⟩
    refine ⟨key, hkey, verify_eq_success.mpr ⟨halg, payload, signature, ?_, hsig, hok⟩⟩
    rw [onePayload_none]
    exact hpayload

/-- **The verdict on the issuer is valid exactly when the chain and the signature are.** -/
theorem validateIssuer_valid {trustAnchorRegistry : TrustAnchorRegistry} {x5chain : X5Chain}
    {document : DeviceResponse.Document} {outcome : ResponseAuthenticationOutcome} :
    (validateIssuer trustAnchorRegistry x5chain document outcome).issuerAuthentication = .Valid ↔
      IssuerVerified trustAnchorRegistry x5chain document := by
  have hiff : IssuerVerified trustAnchorRegistry x5chain document ↔
      ValidationRuleset.Mdl.validate x5chain trustAnchorRegistry = [] ∧
        issuerAuthentication x5chain document.issuerSigned = .ok () := by
    rw [issuerAuthentication_ok_iff]
    exact ⟨fun h => ⟨h.chain, h.signature⟩, fun h => ⟨h.1, h.2⟩⟩
  rw [hiff, validateIssuer]
  cases hchain : ValidationRuleset.Mdl.validate x5chain trustAnchorRegistry with
  | nil => cases hauth : issuerAuthentication x5chain document.issuerSigned <;> simp
  | cons e errors => simp

theorem validateIssuer_response {trustAnchorRegistry : TrustAnchorRegistry} {x5chain : X5Chain}
    {document : DeviceResponse.Document} {outcome : ResponseAuthenticationOutcome} :
    (validateIssuer trustAnchorRegistry x5chain document outcome).response = outcome.response := by
  unfold validateIssuer
  simp only
  split
  · split <;> rfl
  · rfl

theorem validateDevice_response {document : DeviceResponse.Document}
    {sessionTranscript : SessionTranscript180135} {outcome : ResponseAuthenticationOutcome} :
    (validateDevice document sessionTranscript outcome).response = outcome.response := by
  unfold validateDevice
  split <;> rfl

/-- **What a valid verdict on the issuer says.**  For every response, trust anchors and transcript:
the chain comes from the issuer signature of the document of the expected type that the response
holds, the chain and that signature are valid, and every value in the response map is that of an
item of the document in that namespace, with that identifier. -/
theorem validateResponse_valid {deviceResponse : DeviceResponse}
    {sessionTranscript : SessionTranscript180135} {trustAnchorRegistry : TrustAnchorRegistry}
    {document : DeviceResponse.Document} {x5chain : X5Chain} {namespaces : BTreeMap String Json}
    (hparse : parse deviceResponse = some (.ok (document, x5chain, namespaces)))
    (hvalid : (validateResponse sessionTranscript trustAnchorRegistry x5chain document
      namespaces).issuerAuthentication = .Valid) :
    (∃ documents, deviceResponse.documents = some documents ∧ document ∈ documents.toList) ∧
      document.docType = MDL_DOC_TYPE ∧ issuerX5Chain document = .ok x5chain ∧
      IssuerVerified trustAnchorRegistry x5chain document ∧
      ValuesOf document (validateResponse sessionTranscript trustAnchorRegistry x5chain document
        namespaces).response := by
  obtain ⟨hdoc, hchain, hns⟩ := parse_ok hparse
  obtain ⟨documents, hdocuments, hmem, htype⟩ := getDocument_ok hdoc
  refine ⟨⟨documents, hdocuments, hmem⟩, htype, hchain, validateIssuer_valid.mp hvalid, ?_⟩
  rw [validateResponse, validateIssuer_response, validateDevice_response]
  exact parseNamespaces_ok hdoc hns

/-- the item's digest is in the security object -/
def HasDigest (mso : Mso) (ns : String) (item : IssuerSignedItemBytes) : Prop :=
  ∃ (bytes : Bytes) (digests : DigestIds), toVec item = .ok bytes ∧
    mso.valueDigests[ns]? = some digests ∧
    digests[item.inner.digestId]? = some ⟨hash mso.digestAlgorithm bytes⟩

/-- the security object that the issuer signed is for the document's type -/
def TypeCommitted (document : DeviceResponse.Document) : Prop :=
  ∃ payload mso, document.issuerSigned.issuerAuth.inner.payload = some payload ∧
    fromSlice (Tag24 Mso) payload = .ok mso ∧ mso.inner.docType = document.docType

/-- every value is that of an item with its digest in the security object that the issuer signed -/
def ValuesCommitted (document : DeviceResponse.Document) (response : BTreeMap String Json) : Prop :=
  ∃ payload mso, document.issuerSigned.issuerAuth.inner.payload = some payload ∧
    fromSlice (Tag24 Mso) payload = .ok mso ∧
    ∀ (ns : String) (fields : List (String × Json)) (elementIdentifier : String) (value : Json),
      response[ns]? = some (Json.object fields) → (elementIdentifier, value) ∈ fields →
        ∃ (namespaces : IssuerNamespaces) (items : NonEmptyVec IssuerSignedItemBytes),
          document.issuerSigned.namespaces = some namespaces ∧
          namespaces.toMap[ns]? = some items ∧
          ∃ item ∈ items.toList, item.inner.elementIdentifier = elementIdentifier ∧
            HasDigest mso.inner ns item

/-- a valid verdict on the issuer says this of the document and of the values -/
def VouchesFor (P : DeviceResponse.Document → BTreeMap String Json → Prop) : Prop :=
  ∀ (deviceResponse : DeviceResponse) (sessionTranscript : SessionTranscript180135)
    (trustAnchorRegistry : TrustAnchorRegistry) (document : DeviceResponse.Document)
    (x5chain : X5Chain) (namespaces : BTreeMap String Json),
    parse deviceResponse = some (.ok (document, x5chain, namespaces)) →
    (validateResponse sessionTranscript trustAnchorRegistry x5chain document
      namespaces).issuerAuthentication = .Valid →
    P document (validateResponse sessionTranscript trustAnchorRegistry x5chain document
      namespaces).response

end

section
open scoped Reference

namespace Sample

def familyName (name : String) : IssuerSignedItemBytes :=
  Device.Sample.tag24 ⟨DigestId.new 1, ⟨[1, 2, 3]⟩, "family_name", .text name⟩
    (.map [(.text "digestID", .int 1), (.text "random", .bytes [1, 2, 3]),
      (.text "elementIdentifier", .text "family_name"), (.text "elementValue", .text name)])

/-- the security object of a document with one item -/
def mso : Mso :=
  { Device.Sample.mso Device.Sample.coseKey with
    valueDigests := (∅ : BTreeMap String DigestIds).insert CORE_NAMESPACE
      ((∅ : DigestIds).insert (DigestId.new 1)
        ⟨hash .SHA256 (Ciborium.intoWriter (familyName "Mustermann").toCbor)⟩) }

/-- the signer's signature of a security object -/
def issuerAuthOf (mso : Mso) (signature : Bytes) : MaybeTagged CoseSign1 where
  tagged := false
  inner :=
    { protectedHeader := ⟨some [0xa1, 0x01, 0x26], Header.ofAlgorithm .ES256⟩
      unprotected := ⟨none, [(.int X5CHAIN_COSE_HEADER_LABEL, .bytes Reference.signerDer)]⟩
      payload := (Tag24.new mso).toOption.map fun t => Ciborium.intoWriter t.toCbor
      signature }

def issuerAuth : MaybeTagged CoseSign1 :=
  issuerAuthOf mso
    (beBytes 32 0x1c96693033df1f584a93b8776b2efb32f963143ac334d1db89278389431b0244 ++
     beBytes 32 0x338117cb847528f283405f5230f06c64c2683c60254df2774292501c11769f3a)

/-- the signature of a security object for a document of another type -/
def photoIdAuth : MaybeTagged CoseSign1 :=
  issuerAuthOf { mso with docType := "org.iso.23220.photoid.1" }
    (beBytes 32 0xfb09242dc64f2085a4ee65aa19464a95d014d1cedc5922e6803ec808f6503181 ++
     beBytes 32 0xb3cd96f508fae5755e8d7f1c4a74cfe027bbde60e907d4f6389fd87cc02932fe)

/-- the device's signature of no elements, in the sample session -/
def deviceSignature : Bytes :=
  beBytes 32 0x944228e7d86a39cba1909e3f98fa0c99c95490eb257e7147f72a851a91b47fa8 ++
  beBytes 32 0x6fa8ab66cb72521f9fb52e8835b8c278024ed18778ca893d88a74cda2e8b0ffe

def document (issuerAuth : MaybeTagged CoseSign1) (item : IssuerSignedItemBytes) :
    DeviceResponse.Document where
  docType := MDL_DOC_TYPE
  issuerSigned :=
    { namespaces := some (NonEmptyMap.new CORE_NAMESPACE (NonEmptyVec.new item))
      issuerAuth }
  deviceSigned :=
    { namespaces := Device.Sample.tag24 ∅ (.map [])
      deviceAuth := .deviceSignature
        ⟨false, ⟨⟨none, Header.ofAlgorithm .ES256⟩, Header.empty, none, []⟩⟩ }
  errors := none

/-- the document with another name in its item -/
def tampered : DeviceResponse.Document := document issuerAuth (familyName "Musterfrau")

/-- the item in an mDL, under the security object of a document of another type -/
def relabelled : DeviceResponse.Document := document photoIdAuth (familyName "Mustermann")

def oneDocument (document : DeviceResponse.Document) : DeviceResponse where
  version := "1.0"
  documents := some (NonEmptyVec.new document)
  documentErrors := none
  status := .OK

def response : DeviceResponse := oneDocument tampered

def trustedIssuers : TrustAnchorRegistry where
  anchors := (Reference.certificateOfDer Reference.iacaDer).toList.map (⟨·, .Iaca⟩)

/-- what the reader makes of a response -/
def outcome (response : DeviceResponse) : Option ResponseAuthenticationOutcome :=
  match parse response with
  | some (.ok (document, x5chain, namespaces)) =>
    some (validateResponse Device.Sample.sessionTranscript trustedIssuers x5chain document namespaces)
  | _ => none

/-- the issuer is valid, and there is one value in the core namespace -/
def oneValidValue (outcome : ResponseAuthenticationOutcome) : Bool :=
  match outcome.issuerAuthentication, outcome.response[CORE_NAMESPACE]? with
  | .Valid, some (.object [_]) => true
  | _, _ => false

/-- the reader finds one value in a response, and the issuer valid -/
theorem parse_of_outcome {response : DeviceResponse}
    (hverdict : (outcome response).any oneValidValue = true) : ∃ document x5chain namespaces,
    parse response = some (.ok (document, x5chain, namespaces)) ∧
    (validateResponse Device.Sample.sessionTranscript trustedIssuers x5chain document
      namespaces).issuerAuthentication = .Valid ∧
    ∃ field, (validateResponse Device.Sample.sessionTranscript trustedIssuers x5chain document
      namespaces).response[CORE_NAMESPACE]? = some (.object [field]) := by
  unfold outcome at hverdict
  split at hverdict
  case h_2 => cases hverdict
  case h_1 document x5chain namespaces hparse =>
    rw [Option.any_some, oneValidValue] at hverdict
    split at hverdict
    case h_2 => cases hverdict
    case h_1 field hvalid hfield =>
      exact ⟨document, x5chain, namespaces, hparse, hvalid, field, hfield⟩

theorem outcome_response : (outcome response).any oneValidValue = true := by decide +kernel

theorem outcome_relabelled : (outcome (oneDocument relabelled)).any oneValidValue = true := by
  decide +kernel

end Sample

theorem validateResponse_valid_sample : ∃ document x5chain namespaces,
    parse Sample.response = some (.ok (document, x5chain, namespaces)) ∧
    (∃ documents, Sample.response.documents = some documents ∧ document ∈ documents.toList) ∧
      document.docType = MDL_DOC_TYPE ∧ issuerX5Chain document = .ok x5chain ∧
      IssuerVerified Sample.trustedIssuers x5chain document ∧
      ValuesOf document (validateResponse Device.Sample.sessionTranscript Sample.trustedIssuers
        x5chain document namespaces).response := by
  obtain ⟨document, x5chain, namespaces, hparse, hvalid, -⟩ :=
    Sample.parse_of_outcome Sample.outcome_response
  exact ⟨document, x5chain, namespaces, hparse, validateResponse_valid hparse hvalid⟩

/-- The security object of another document passes as valid in an mDL, and a changed value passes
under the issuer's signature of the genuine one. -/
theorem tampered_not_committed :
    ¬ VouchesFor (fun document _ => TypeCommitted document) ∧ ¬ VouchesFor ValuesCommitted := by
  refine ⟨fun h => ?_, fun h => ?_⟩
  · have htype : (fromSlice (Tag24 Mso) (Sample.photoIdAuth.inner.payload.getD [])).toOption.all
        (fun mso => mso.inner.docType ≠ MDL_DOC_TYPE) = true := by
      decide +kernel
    obtain ⟨document, x5chain, namespaces, hparse, hvalid, -⟩ :=
      Sample.parse_of_outcome Sample.outcome_relabelled
    have hdocument : document = Sample.relabelled := (Except.ok.inj (parse_ok hparse).1).symm
    obtain ⟨payload, mso, hpayload, hmso, hdocType⟩ := h _ _ _ _ _ _ hparse hvalid
    rw [hdocument] at hpayload hdocType
    have hread : Sample.photoIdAuth.inner.payload = some payload := hpayload
    rw [hread, Option.getD_some, hmso] at htype
    exact of_decide_eq_true htype hdocType
  · have hdigest : (fromSlice (Tag24 Mso) (Sample.issuerAuth.inner.payload.getD [])).toOption.all
        fun mso => ((mso.inner.valueDigests[CORE_NAMESPACE]?).bind fun digests =>
          digests[DigestId.new 1]?) ≠ some ⟨hash mso.inner.digestAlgorithm
            (Ciborium.intoWriter (Sample.familyName "Musterfrau").toCbor)⟩ := by
      decide +kernel
    obtain ⟨document, x5chain, namespaces, hparse, hvalid, field, hfield⟩ :=
      Sample.parse_of_outcome Sample.outcome_response
    have hdocument : document = Sample.tampered := (Except.ok.inj (parse_ok hparse).1).symm
    obtain ⟨payload, mso, hpayload, hmso, hall⟩ := h _ _ _ _ _ _ hparse hvalid
    obtain ⟨namespaces, items, hnamespaces, hitems, item, hitem, -, hcommitted⟩ :=
      hall CORE_NAMESPACE [field] field.1 field.2 hfield (List.mem_singleton_self field)
    obtain ⟨bytes, digests, hbytes, hdigests, hget⟩ := hcommitted
    rw [hdocument] at hnamespaces hpayload
    cases hnamespaces
    have hinsert : ((∅ : BTreeMap String (NonEmptyVec IssuerSignedItemBytes)).insert CORE_NAMESPACE
        (NonEmptyVec.new (Sample.familyName "Musterfrau")))[CORE_NAMESPACE]? = some items := hitems
    rw [BTreeMap.getElem?_insert, if_pos rfl] at hinsert
    cases hinsert
    rw [List.mem_singleton.mp hitem] at hbytes hget
    rw [Tag24.toVec_eq] at hbytes
    cases hbytes
    have hread : Sample.issuerAuth.inner.payload = some payload := hpayload
    rw [hread, Option.getD_some, hmso] at hdigest
    have hne := of_decide_eq_true hdigest
    rw [hdigests] at hne
    exact hne hget

end

end Reader

end Isomdl
