import Isomdl.Issuance.Batch
import Isomdl.Issuance.Complete
import Isomdl.Presentation.Signing

/-!
# Digests from issuance to presentation

A holder keeps a credential as a `Document`, with its items by element identifier.  An item that
a reader decodes has the bytes it was hashed with at issuance, so its digest is the one in the
security object.

* `Document.held_ofMdoc`      no item is lost on the way to a `Document`;
* `disclosed_from_issued`     what a reader decodes has the bytes of an item of the credential;
* `digests_bound`             and the digest that the security object has for it.
-/

set_option linter.unusedSectionVars false

namespace Isomdl

open Cbor

namespace Device

/-! ## from a credential to a document -/

/-- `extract`: the items of a namespace, by their identifiers -/
def extract (v : NonEmptyVec IssuerSignedItemBytes) : NonEmptyMap String IssuerSignedItemBytes where
  toMap := Std.ExtTreeMap.ofList (v.toList.map fun i => (i.inner.elementIdentifier, i)) compare
  nonempty := fun h => v.nonempty (List.map_eq_nil_iff.mp (BTreeMap.ofList_eq_empty.mp h))

/-- `From<Mdoc> for Document`; the id is a fresh time-based one -/
def Document.ofMdoc (id : Uuid) (mdoc : Mdoc) : Document where
  id
  issuerAuth := mdoc.issuerAuth
  mso := mdoc.mso
  namespaces :=
    { toMap := Std.ExtTreeMap.ofList
        (mdoc.namespaces.toMap.toList.map fun (ns, v) => (ns, extract v)) compare
      nonempty := fun h => mdoc.namespaces.nonempty (by
        by_contra hne
        exact BTreeMap.toList_ne_nil.mpr hne
          (List.map_eq_nil_iff.mp (BTreeMap.ofList_eq_empty.mp h))) }

/-- the items that a credential has for an element -/
theorem Document.held_ofMdoc_eq (id : Uuid) (mdoc : Mdoc) (ns element : String) :
    (Document.ofMdoc id mdoc).held ns element =
      (mdoc.namespaces.toMap[ns]?).bind fun v => (extract v).toMap[element]? := by
  have hnd : ((mdoc.namespaces.toMap.toList.map fun e => (e.1, extract e.2)).map Prod.fst).Nodup := by
    rw [List.map_map]
    exact BTreeMap.toList_keys_nodup mdoc.namespaces.toMap
  have hget : (Document.ofMdoc id mdoc).namespaces.toMap[ns]? =
      (mdoc.namespaces.toMap[ns]?).map extract := by
    show (Std.ExtTreeMap.ofList (mdoc.namespaces.toMap.toList.map fun e => (e.1, extract e.2))
      compare : BTreeMap String _)[ns]? = _
    cases hns : mdoc.namespaces.toMap[ns]? with
    | some v =>
      rw [BTreeMap.getElem?_ofList_of_mem hnd
        (List.mem_map.mpr ⟨(ns, v), BTreeMap.mem_toList.mpr hns, rfl⟩)]
      rfl
    | none =>
      rw [Option.map_none, BTreeMap.getElem?_eq_none_iff, BTreeMap.mem_ofList, List.map_map]
      exact fun hmem => BTreeMap.getElem?_eq_none_iff.mp hns (BTreeMap.mem_toList_keys.mp hmem)
  rw [Document.held, hget]
  cases mdoc.namespaces.toMap[ns]? <;> rfl

/-- what a document holds is an item of the credential -/
theorem Document.mem_of_held_ofMdoc {id : Uuid} {mdoc : Mdoc} {ns element : String}
    {item : IssuerSignedItemBytes} (h : (Document.ofMdoc id mdoc).held ns element = some item) :
    item ∈ itemsOf (some mdoc.namespaces) ns ∧ item.inner.elementIdentifier = element := by
  rw [held_ofMdoc_eq] at h
  obtain ⟨v, hv, hitem⟩ := Option.bind_eq_some_iff.mp h
  obtain ⟨i, hi, heq⟩ := List.mem_map.mp (BTreeMap.mem_of_getElem?_ofList hitem)
  cases heq
  refine ⟨?_, rfl⟩
  show item ∈ ((mdoc.namespaces.toMap[ns]?).map NonEmptyVec.toList).getD []
  rw [hv]
  exact hi

/-- **No item is lost**, when the identifiers of a namespace are distinct. -/
theorem Document.held_ofMdoc {id : Uuid} {mdoc : Mdoc} {ns : String}
    {item : IssuerSignedItemBytes} (hitem : item ∈ itemsOf (some mdoc.namespaces) ns)
    (hnd : ((itemsOf (some mdoc.namespaces) ns).map (·.inner.elementIdentifier)).Nodup) :
    (Document.ofMdoc id mdoc).held ns item.inner.elementIdentifier = some item := by
  rw [held_ofMdoc_eq]
  have hitems : itemsOf (some mdoc.namespaces) ns =
    ((mdoc.namespaces.toMap[ns]?).map NonEmptyVec.toList).getD [] := rfl
  rw [hitems] at hitem hnd
  cases hv : mdoc.namespaces.toMap[ns]? with
  | none =>
    rw [hv] at hitem
    cases hitem
  | some v =>
    rw [hv] at hitem hnd
    apply BTreeMap.getElem?_ofList_of_mem
    · rw [List.map_map]
      exact hnd
    · exact List.mem_map.mpr ⟨item, hitem, rfl⟩

/-! ## from a prepared response to the reader -/

/-- the documents of a finalized response are prepared ones -/
theorem mem_documentList_finalizeResponse {r : PreparedDeviceResponse} {cs : List SigningCall}
    (h : r.signedDocuments = []) {document : DeviceResponse.Document}
    (hd : document ∈ (r.calls cs).finalizeResponse.documentList) :
    ∃ d ∈ r.preparedDocuments, ∃ signature, document = d.finalize signature := by
  rw [PreparedDeviceResponse.calls_eq] at hd
  by_cases hcomplete : (r.signedBy (SigningCall.signatures cs)).isComplete = true
  · rw [PreparedDeviceResponse.documentList_finalizeResponse hcomplete, h, List.nil_append] at hd
    obtain ⟨e, he, rfl⟩ := List.mem_map.mp hd
    have hfst : e.1 ∈ r.preparedDocuments.reverse := (List.of_mem_zip he).1
    exact ⟨e.1, List.mem_reverse.mp hfst, e.2, rfl⟩
  · rw [PreparedDeviceResponse.finalizeResponse, if_neg hcomplete] at hd
    cases hd

section
variable [Ciborium] [Coset] [CosetHeader] [FaithfulCiborium] [LawfulCoset]

/-- a reader has decoded this item in a response that discloses the credential under `docType` -/
structure Received (mdoc : Mdoc) (docType : String) (document : DeviceResponse.Document)
    (ns : String) (item : IssuerSignedItemBytes) : Prop where
  exists_response : ∃ (S : Type) (_ : Serialize S) (id : Uuid) (documents : Documents)
    (sessionTranscript : S) (deviceAuthType : DeviceAuthType) (requests : RequestedItems)
    (permitted : PermittedItems) (cs : List SigningCall) (bytes : Bytes) (response : DeviceResponse),
    documents.toMap[docType]? = some (Document.ofMdoc id mdoc) ∧
    toVec ((sessionPrepareResponse documents sessionTranscript deviceAuthType requests
      permitted).calls cs).finalizeResponse = .ok bytes ∧
    fromSlice DeviceResponse bytes = .ok response ∧
    document ∈ response.documentList
  docType_eq : document.docType = docType
  mem : item ∈ itemsOf document.issuerSigned.namespaces ns

/-- **What a reader decodes is an item of the credential, with its bytes**, and what it was signed
with. -/
theorem disclosed_from_issued {mdoc : Mdoc} {docType : String} {document : DeviceResponse.Document}
    {ns : String} {item : IssuerSignedItemBytes} (h : Received mdoc docType document ns item) :
    (∃ issued ∈ itemsOf (some mdoc.namespaces) ns, SameBytes issued item) ∧
      Sign1Kept mdoc.issuerAuth document.issuerSigned.issuerAuth := by
  obtain ⟨S, _, id, documents, sessionTranscript, deviceAuthType, requests, permitted, cs, bytes,
    response, hdocument, henc, hdec, hmem⟩ := h.exists_response
  have hdocuments := decodes_deviceResponse.fromSlice henc hdec
  obtain ⟨i, hi, hget⟩ := List.getElem_of_mem hmem
  have hi' := hdocuments.length_eq ▸ hi
  have hkept := hdocuments.get hi' hi
  rw [List.get_eq_getElem, List.get_eq_getElem, hget] at hkept
  obtain ⟨d, hd, signature, hfinal⟩ :=
    mem_documentList_finalizeResponse rfl (List.getElem_mem hi')
  rw [hfinal] at hkept
  have hdocType : d.docType = docType := hkept.docType.symm.trans h.docType_eq
  obtain ⟨namespaces, -, hprepared⟩ := mem_preparedDocuments.mp hd
  rw [hdocType] at hprepared
  obtain ⟨held, hheld, -, hitems, -⟩ := prepareDocument_spec hprepared
  obtain ⟨held', -, deviceNamespaces, -, cose, hheld', -, -, -, -, hd'⟩ :=
    prepareDocument_eq_some.mp hprepared
  rw [hdocument] at hheld hheld'
  cases hheld
  cases hheld'
  constructor
  · have hall := hkept.namespaces ns
    obtain ⟨j, hj, hgetj⟩ := List.getElem_of_mem h.mem
    have hj' := hall.length_eq ▸ hj
    have hsame := hall.get hj' hj
    rw [List.get_eq_getElem, List.get_eq_getElem, hgetj] at hsame
    have hdisclosed : (itemsOf (d.finalize signature).issuerSigned.namespaces ns)[j] ∈
      d.disclosed ns := List.getElem_mem hj'
    obtain ⟨elements, -, element, -, hfound⟩ := (hitems ns _).mp hdisclosed
    exact ⟨_, (Document.mem_of_held_ofMdoc hfound).1, hsame⟩
  · have hauth := hkept.issuerAuth
    rw [hd'] at hauth
    exact hauth

/-! ## from issuance to the reader -/

variable [Rfc3339] [Sha2]

/-- the security object has the digest of this encoding under the item's namespace and id -/
def HasDigest (mso : Mso) (ns : String) (item : IssuerSignedItemBytes) (encoding : Bytes) : Prop :=
  ∃ digestIds, mso.valueDigests[ns]? = some digestIds ∧
    digestIds[item.inner.digestId]? = some ⟨hash mso.digestAlgorithm encoding⟩

theorem MsoKept.hasDigest {mso mso' : Mso} (h : MsoKept mso mso') {ns : String}
    {item : IssuerSignedItemBytes} {encoding : Bytes} (hd : HasDigest mso ns item encoding) :
    HasDigest mso' ns item encoding := by
  obtain ⟨digestIds, hns, hdigest⟩ := hd
  have hrel := h.valueDigests ns
  rw [hns] at hrel
  cases hns' : mso'.valueDigests[ns]? with
  | none =>
    rw [hns'] at hrel
    cases hrel
  | some digestIds' =>
    rw [hns'] at hrel
    cases hrel with
    | some hids =>
      have hid := hids item.inner.digestId
      rw [hdigest] at hid
      refine ⟨digestIds', hns', ?_⟩
      rw [h.digestAlgorithm]
      generalize digestIds'[item.inner.digestId]? = o at hid ⊢
      cases hid with
      | some heq => rw [heq]

/-- **A credential whose digests are bound**: no item is lost in a document, and whatever a reader
decodes of it encodes to the bytes that were hashed at issuance, whose digest is in the security
object, the issuer's and the one that the reader decodes -/
structure DigestsBound (mdoc : Mdoc) : Prop where
  lossless : ∀ id ns, ∀ item ∈ itemsOf (some mdoc.namespaces) ns,
    (Document.ofMdoc id mdoc).held ns item.inner.elementIdentifier = some item
  bound : ∀ docType document ns item, Received mdoc docType document ns item →
    ∃ issued ∈ itemsOf (some mdoc.namespaces) ns, ∃ encoding,
      toVec issued = .ok encoding ∧ toVec item = .ok encoding ∧
      HasDigest mdoc.mso ns item encoding ∧
      ∀ msoBytes mso, document.issuerSigned.issuerAuth.inner.payload = some msoBytes →
        fromSlice (Tag24 Mso) msoBytes = .ok mso → HasDigest mso.inner ns item encoding

theorem SameBytes.toVec_eq {t t' : IssuerSignedItemBytes} (h : SameBytes t t') :
    toVec t' = toVec t := by
  rw [Tag24.toVec_eq, Tag24.toVec_eq, Tag24.toCbor, Tag24.toCbor, h.1]

section
variable [X509Cert] [P256] [P384] [P521]

/-- the items and the digests of the namespace that an item of a credential is in -/
theorem exists_namespaceCommits {namespaces : Namespaces} {algorithm : DigestAlgorithm}
    {enableDecoyDigests : Bool} {m : PreparedMdoc} {cs : List (String × Commitment)}
    (htable : Commitment.Table namespaces algorithm enableDecoyDigests m cs) {x5chain : X5Chain}
    {signature : Bytes} {mdoc : Mdoc} (h : m.complete x5chain signature = .ok mdoc) {ns : String}
    {item : IssuerSignedItemBytes} (hitem : item ∈ itemsOf (some mdoc.namespaces) ns) :
    ∃ elements items digestIds, itemsOf (some mdoc.namespaces) ns = items.toList ∧
      mdoc.mso.valueDigests[ns]? = some digestIds ∧
      NamespaceCommits algorithm enableDecoyDigests elements items digestIds := by
  obtain ⟨-, -, -, -, hmso, hnamespaces, -⟩ := m.complete_ok h
  have hitems : itemsOf (some mdoc.namespaces) ns =
      ((m.namespaces.toMap[ns]?).map NonEmptyVec.toList).getD [] := by
    rw [hnamespaces]
    rfl
  cases hv : m.namespaces.toMap[ns]? with
  | none =>
    rw [hitems, hv] at hitem
    cases hitem
  | some v =>
    have hmem := (htable.names ns).mp (BTreeMap.mem_iff_getElem?.mpr ⟨v, hv⟩)
    obtain ⟨elements, helements⟩ := BTreeMap.mem_iff_getElem?.mp hmem
    obtain ⟨items, digestIds, hget, hdigests, hcommit⟩ :=
      (commitsExactly_of_table htable).commits ns elements helements
    refine ⟨elements, items, digestIds, ?_, ?_, hcommit⟩
    · rw [hitems, hget]
      rfl
    · rw [hmso]
      exact hdigests

/-- **What was issued stays bound.** -/
theorem digestsBound_of_table {namespaces : Namespaces} {algorithm : DigestAlgorithm}
    {enableDecoyDigests : Bool} {m : PreparedMdoc} {cs : List (String × Commitment)}
    (htable : Commitment.Table namespaces algorithm enableDecoyDigests m cs) {docType : String}
    {issuerNamespaces : IssuerNamespaces} {validityInfo : ValidityInfo}
    {deviceKeyInfo : DeviceKeyInfo} {signatureAlgorithm : Algorithm}
    {valueDigests : BTreeMap String DigestIds}
    (hm : finishPreparation docType issuerNamespaces validityInfo algorithm deviceKeyInfo
      signatureAlgorithm valueDigests = .ok m)
    {x5chain : X5Chain} {signature : Bytes} {mdoc : Mdoc}
    (h : m.complete x5chain signature = .ok mdoc) : DigestsBound mdoc := by
  obtain ⟨-, -, -, -, hmso, -, -, -, hpayload, -⟩ := m.complete_ok h
  obtain ⟨mso24, msoBytes, hmso24, hmsoBytes, hsig⟩ := finishPreparation_signs hm
  constructor
  · intro id ns item hitem
    obtain ⟨elements, items, digestIds, hitems, -, hcommit⟩ :=
      exists_namespaceCommits htable h hitem
    apply Document.held_ofMdoc hitem
    have hids := congrArg (List.map Prod.fst) hcommit.elements_kept
    rw [List.map_map] at hids
    have hkeys : (itemsOf (some mdoc.namespaces) ns).map (·.inner.elementIdentifier) =
        elements.toList.map Prod.fst := by
      rw [hitems, ← hids]
      rfl
    rw [hkeys]
    exact BTreeMap.toList_keys_nodup elements
  · intro docType document ns item hreceived
    obtain ⟨⟨issued, hissued, hsame⟩, hauth⟩ := disclosed_from_issued hreceived
    obtain ⟨elements, items, digestIds, hitems, hdigests, hcommit⟩ :=
      exists_namespaceCommits htable h hissued
    rw [hitems] at hissued
    obtain ⟨encoding, hencoding, hdigest⟩ := hcommit.digests issued hissued
    have hid := (decodes_issuerSignedItem.fromSlice (hcommit.item_bytes issued hissued)
      hsame.2).digestId
    have hhas : HasDigest mdoc.mso ns item encoding := by
      refine ⟨digestIds, hdigests, ?_⟩
      rw [hid, hdigest, hmso, htable.algorithm_kept]
    refine ⟨issued, hitems ▸ hissued, encoding, hencoding,
      (SameBytes.toVec_eq hsame).trans hencoding, hhas, ?_⟩
    intro bytes mso hbytes hread
    rw [hauth.payload, hpayload, hsig] at hbytes
    cases hbytes
    obtain ⟨hinner, hvec⟩ := Tag24.new_ok hmso24
    obtain ⟨-, hinside⟩ := Decodes.tag24.fromSlice hmsoBytes hread
    refine MsoKept.hasDigest ?_ hhas
    rw [hmso]
    exact decodes_mso.fromSlice hvec hinside

/-- **Digest binding survives issuance, storage and presentation**: of every credential that is
issued, one at a time or in a batch, no item is lost and every item that a reader decodes has the
digest that the security object has for it; and of any credential, whatever bytes its items have,
a reader decodes the items' own bytes. -/
theorem digests_bound {R : Type} [RngCore R] :
    (∀ (fuel : Nat) (docType : String) (namespaces : Namespaces) (validityInfo : ValidityInfo)
      (digestAlgorithm : DigestAlgorithm) (deviceKeyInfo : DeviceKeyInfo)
      (signatureAlgorithm : Algorithm) (enableDecoyDigests : Bool),
      Returns (prepareWithValidatedInputs fuel docType namespaces validityInfo digestAlgorithm
          deviceKeyInfo signatureAlgorithm enableDecoyDigests serialDigestExecutor :
            Prepare R PreparedMdoc) fun m =>
        ∀ x5chain signature mdoc, m.complete x5chain signature = .ok mdoc → DigestsBound mdoc) ∧
    (∀ (fuel : Nat) (executor : DigestExecutor) (batch : List MdocBatchItem)
      (validated : List ValidatedMdocBatchItem), Conforming executor →
      validateMdocBatch batch = .ok validated →
      Returns (prepareBatchWithValidatedInputs fuel validated executor :
          Prepare R (List PreparedMdocBatchItem)) fun out =>
        ∀ item ∈ out, ∀ x5chain signature mdoc,
          item.preparedMdoc.complete x5chain signature = .ok mdoc → DigestsBound mdoc) ∧
    ∀ mdoc docType document ns item, Received mdoc docType document ns item →
      ∃ issued ∈ itemsOf (some mdoc.namespaces) ns,
        item.innerBytes = issued.innerBytes ∧ toVec item = toVec issued := by
  refine ⟨?_, ?_, ?_⟩
  · intro fuel docType namespaces validityInfo digestAlgorithm deviceKeyInfo signatureAlgorithm
      enableDecoyDigests
    refine (prepareWithValidatedInputs_returns fuel _ _ _ _ _ _ _).mono ?_
    intro m hm x5chain signature mdoc h
    obtain ⟨cs, valueDigests, htable, hfinish⟩ := hm
    exact digestsBound_of_table htable hfinish h
  · intro fuel executor batch validated hx hv rng out rng' hrun item hitem x5chain signature mdoc h
    obtain ⟨hseq, -, -⟩ := sequential_of_batch hx hv hrun
    have hall := Returns.mapM validated (fun item _ => prepareWithValidatedInputs_returns (R := R)
      fuel item.docType item.namespaces item.validityInfo item.digestAlgorithm item.deviceKeyInfo
      item.signatureAlgorithm item.enableDecoyDigests) _ _ _ hseq
    obtain ⟨i, hi, hget⟩ := List.getElem_of_mem (List.mem_map_of_mem (f := (·.preparedMdoc)) hitem)
    have hi' := hall.length_eq ▸ hi
    have hrel := hall.get hi' hi
    rw [List.get_eq_getElem, List.get_eq_getElem, hget] at hrel
    obtain ⟨cs, valueDigests, htable, hfinish⟩ := hrel
    exact digestsBound_of_table htable hfinish h
  · intro mdoc docType document ns item hreceived
    obtain ⟨⟨issued, hissued, hsame⟩, -⟩ := disclosed_from_issued hreceived
    exact ⟨issued, hissued, hsame.1, SameBytes.toVec_eq hsame⟩

end

end

section
open scoped Reference

/-- a credential with two elements, prepared -/
def Sample.prepared : Except Halt (PreparedMdoc × Reference.Counter) :=
  (prepareWithValidatedInputs 3 "org.iso.18013.5.1.mDL" Sample.namespaces Sample.validityInfo
    .SHA256 PreparedMdoc.Sample.deviceKeyInfo .ES256 false serialDigestExecutor).run ⟨0⟩

/-- the document signer's signature of it -/
def Sample.signature : Bytes :=
  beBytes 32 0x34f6aa8be28d24e6c182408abc44f8215c276dae4e94e4982fcffa7237302a09 ++
  beBytes 32 0x3a332da262acbab1fad397ee14aa666380c59b6d0516aa2f5149bbbc62cf5bda

theorem Sample.length_mdocId : (List.replicate 16 (2 : UInt8)).length = 16 := rfl

/-- the documents of a holder of the credential -/
def Sample.holds (mdoc : Mdoc) : Documents :=
  NonEmptyMap.new "org.iso.18013.5.1.mDL"
    (Document.ofMdoc ⟨List.replicate 16 2, Sample.length_mdocId⟩ mdoc)

/-- the response to the sample request, with one signature, as it is received -/
def Sample.received (mdoc : Mdoc) : Except CborError DeviceResponse := do
  let prepared := sessionPrepareResponse (Sample.holds mdoc) Sample.sessionTranscript .Sign1
    Sample.requests Sample.permitted
  let bytes ← toVec (prepared.calls [.submitNextSignature [1]]).finalizeResponse
  fromSlice DeviceResponse bytes

/-- the response has an mDL with an item -/
def Sample.presents (response : DeviceResponse) : Bool :=
  response.documentList.any fun document => document.docType == "org.iso.18013.5.1.mDL" &&
    (itemsOf document.issuerSigned.namespaces "org.iso.18013.5.1").any fun _ => true

theorem Sample.exists_received {mdoc : Mdoc} {response : DeviceResponse}
    (h : Sample.received mdoc = .ok response) (hpresents : Sample.presents response = true) :
    ∃ document item, Received mdoc "org.iso.18013.5.1.mDL" document "org.iso.18013.5.1" item := by
  obtain ⟨bytes, hbytes, hread⟩ := bind_eq_ok h
  obtain ⟨document, hdocument, hpresents⟩ := List.any_eq_true.mp hpresents
  obtain ⟨htype, hitems⟩ := Bool.and_eq_true _ _ |>.mp hpresents
  obtain ⟨item, hitem, -⟩ := List.any_eq_true.mp hitems
  exact ⟨document, item, ⟨_, _, _, Sample.holds mdoc, _, _, _, _, _, bytes, response,
    Std.ExtTreeMap.getElem?_insert_self, hbytes, hread, hdocument⟩, eq_of_beq htype, hitem⟩

theorem digests_bound_sample : ∃ m rng x5chain mdoc document item encoding,
    Sample.prepared = .ok (m, rng) ∧ PreparedMdoc.Sample.x5chain = .ok x5chain ∧
    m.complete x5chain Sample.signature = .ok mdoc ∧ DigestsBound mdoc ∧
    Received mdoc "org.iso.18013.5.1.mDL" document "org.iso.18013.5.1" item ∧
    toVec item = .ok encoding ∧ HasDigest mdoc.mso "org.iso.18013.5.1" item encoding := by
  have hcheck : (Sample.prepared.toOption.any fun p =>
      PreparedMdoc.Sample.x5chain.toOption.any fun x5chain =>
        (p.1.complete x5chain Sample.signature).toOption.any fun mdoc =>
          (Sample.received mdoc).toOption.any Sample.presents) = true := by
    decide +kernel
  obtain ⟨⟨m, rng⟩, hm, hcheck⟩ := exists_ok_of_any hcheck
  obtain ⟨x5chain, hchain, hcheck⟩ := exists_ok_of_any hcheck
  obtain ⟨mdoc, hmdoc, hcheck⟩ := exists_ok_of_any hcheck
  obtain ⟨response, hresponse, hpresents⟩ := exists_ok_of_any hcheck
  obtain ⟨document, item, hreceived⟩ := Sample.exists_received hresponse hpresents
  have hbound : DigestsBound mdoc :=
    (digests_bound (R := Reference.Counter)).1 _ _ _ _ _ _ _ _ _ _ _ hm x5chain _ mdoc hmdoc
  obtain ⟨issued, -, encoding, -, hencoding, hdigest, -⟩ := hbound.bound _ _ _ _ hreceived
  exact ⟨m, rng, x5chain, mdoc, document, item, encoding, hm, hchain, hmdoc, hbound, hreceived,
    hencoding, hdigest⟩

end

end Device

end Isomdl
