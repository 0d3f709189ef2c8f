import Isomdl.Lib.FirstMatch
import Isomdl.Presentation.Device
import Isomdl.Reference

/-!
# Selective disclosure (`presentation/device.rs`)

What a prepared response discloses: the elements that were requested and permitted, out of the
documents that are held and whose device key can sign.

* `getElem?_filterPermitted`      `filter_permitted`, lookup by lookup;
* `Disclosure.mem_ofNamespaces`, `Disclosure.error_ofNamespaces`
                                  what the loops of `prepare_response` fill their maps with;
* `prepareDocument_isSome`        when a document is prepared;
* `prepareDocument_spec`          what a prepared document discloses and reports;
* `sessionPrepareResponse_exact`  the same of a whole response.
-/

set_option linter.unusedSectionVars false

namespace Isomdl

open Cbor

namespace Device

/-! ## `filter_permitted` -/

/-- the element is in the permitted map -/
def Permits (permitted : PermittedItems) (docType ns element : String) : Prop :=
  ∃ namespaces elements, permitted[docType]? = some namespaces ∧ namespaces[ns]? = some elements ∧
    element ∈ elements

/-- the element is asked for by an item of the request -/
def Requests (requests : RequestedItems) (docType ns element : String) : Prop :=
  ∃ request ∈ requests, request.docType = docType ∧
    ∃ elements, request.namespaces.toMap[ns]? = some elements ∧ element ∈ elements.toMap

/-- the element survives `filter_permitted` -/
def Survives (requests : RequestedItems) (permitted : PermittedItems) :
    String → String → String → Prop := Permits (filterPermitted requests permitted)

/-- what `filter_permitted` keeps of the namespaces of a document type -/
def filterNamespaces (request : ItemsRequest) (namespaces : BTreeMap String (List String)) :
    BTreeMap String (List String) :=
  Std.ExtTreeMap.ofList (namespaces.toList.filterMap fun e =>
    (request.namespaces.toMap[e.1]?).map fun reqElems =>
      (e.1, e.2.filter fun elem => elem ∈ reqElems.toMap)) compare

theorem getElem?_filterPermitted (requests : RequestedItems) (permitted : PermittedItems)
    (docType : String) :
    (filterPermitted requests permitted)[docType]? = (permitted[docType]?).bind fun namespaces =>
      (requests.find? fun item => item.docType = docType).map fun request =>
        filterNamespaces request namespaces := by
  rw [← BTreeMap.getElem?_ofList_filterMap permitted fun docType namespaces =>
    (requests.find? fun item => item.docType = docType).map fun request =>
      filterNamespaces request namespaces]
  unfold filterPermitted filterNamespaces
  simp only [Option.map_map]
  rfl

theorem getElem?_filterNamespaces (request : ItemsRequest)
    (namespaces : BTreeMap String (List String)) (ns : String) :
    (filterNamespaces request namespaces)[ns]? = (namespaces[ns]?).bind fun elements =>
      (request.namespaces.toMap[ns]?).map fun reqElems =>
        elements.filter fun elem => elem ∈ reqElems.toMap := by
  rw [← BTreeMap.getElem?_ofList_filterMap namespaces fun ns elements =>
    (request.namespaces.toMap[ns]?).map fun reqElems =>
      elements.filter fun elem => elem ∈ reqElems.toMap]
  unfold filterNamespaces
  simp only [Option.map_map]
  rfl

/-- the request asks for the element -/
def Asks (request : ItemsRequest) (ns element : String) : Prop :=
  ∃ reqElems, request.namespaces.toMap[ns]? = some reqElems ∧ element ∈ reqElems.toMap

/-- **What survives: it is permitted, and the first request for its document type asks for it.** -/
theorem survives_iff_picks {requests : RequestedItems} {permitted : PermittedItems}
    {docType ns element : String} :
    Survives requests permitted docType ns element ↔ Permits permitted docType ns element ∧
      FirstMatch.Picks (fun item => decide (item.docType = docType)) (Asks · ns element) requests := by
  constructor
  · rintro ⟨filtered, elements, hfiltered, helements, hmem⟩
    rw [getElem?_filterPermitted, Option.bind_eq_some_iff] at hfiltered
    obtain ⟨namespaces, hnamespaces, hfind⟩ := hfiltered
    obtain ⟨request, hrequest, rfl⟩ := Option.map_eq_some_iff.mp hfind
    rw [getElem?_filterNamespaces, Option.bind_eq_some_iff] at helements
    obtain ⟨permittedElements, hpermitted, hmap⟩ := helements
    obtain ⟨reqElems, hreq, rfl⟩ := Option.map_eq_some_iff.mp hmap
    obtain ⟨hin, hasked⟩ := List.mem_filter.mp hmem
    exact ⟨⟨namespaces, permittedElements, hnamespaces, hpermitted, hin⟩, request, hrequest,
      reqElems, hreq, of_decide_eq_true hasked⟩
  · rintro ⟨⟨namespaces, elements, hnamespaces, helements, hmem⟩, request, hrequest, reqElems, hreq,
      hasked⟩
    refine ⟨filterNamespaces request namespaces, elements.filter fun elem => elem ∈ reqElems.toMap,
      ?_, ?_, List.mem_filter.mpr ⟨hmem, decide_eq_true hasked⟩⟩
    · rw [getElem?_filterPermitted, hnamespaces, Option.bind_some, hrequest]
      rfl
    · rw [getElem?_filterNamespaces, helements, Option.bind_some, hreq]
      rfl

/-- **What survives was permitted and requested.** -/
theorem Survives.permits_requests {requests : RequestedItems} {permitted : PermittedItems}
    {docType ns element : String} (h : Survives requests permitted docType ns element) :
    Permits permitted docType ns element ∧ Requests requests docType ns element := by
  obtain ⟨hpermits, hpicks⟩ := survives_iff_picks.mp h
  obtain ⟨request, hmem, hdoc, hasks⟩ := hpicks.exists_mem
  exact ⟨hpermits, request, hmem, of_decide_eq_true hdoc, hasks⟩

/-! ## the loops over namespaces and elements -/

/-- the item that a document holds for an element -/
def Document.held (document : Document) (ns element : String) : Option IssuerSignedItemBytes :=
  (document.namespaces.toMap[ns]?).bind fun issuerItems => issuerItems.toMap[element]?

namespace Disclosure

/-- the items that are disclosed in a namespace -/
def items (d : Disclosure) (ns : String) : List IssuerSignedItemBytes :=
  ((d.issuerNamespaces[ns]?).map NonEmptyVec.toList).getD []

/-- the error that is reported for an element -/
def error (d : Disclosure) (ns element : String) : Option DocumentErrorCode :=
  (d.errors[ns]?).bind fun returnedErrors => returnedErrors.toMap[element]?

theorem items_addItem (d : Disclosure) (ns ns' : String) (item : IssuerSignedItemBytes) :
    (d.addItem ns item).items ns' = d.items ns' ++ if ns' = ns then [item] else [] := by
  unfold addItem items
  rw [BTreeMap.getElem?_insert]
  by_cases h : ns' = ns
  · rw [if_pos h, if_pos h, h]
    cases d.issuerNamespaces[ns]? <;> rfl
  · rw [if_neg h, if_neg h, List.append_nil]

theorem error_addError (d : Disclosure) (ns element ns' element' : String) :
    (d.addError ns element).error ns' element' =
      if ns' = ns ∧ element' = element then some .DataNotReturned else d.error ns' element' := by
  unfold addError error
  rw [BTreeMap.getElem?_insert]
  by_cases h : ns' = ns
  · rw [if_pos h, h]
    cases d.errors[ns]? with
    | none =>
      show ((∅ : BTreeMap String DocumentErrorCode).insert element .DataNotReturned)[element']? = _
      rw [BTreeMap.getElem?_insert]
      by_cases he : element' = element
      · rw [if_pos he, if_pos ⟨rfl, he⟩]
      · rw [if_neg he, if_neg fun hand => he hand.2]
        rfl
    | some returnedErrors =>
      show (returnedErrors.toMap.insert element .DataNotReturned)[element']? = _
      rw [BTreeMap.getElem?_insert]
      by_cases he : element' = element
      · rw [if_pos he, if_pos ⟨rfl, he⟩]
      · rw [if_neg he, if_neg fun hand => he hand.2]
        rfl
  · rw [if_neg h, if_neg fun hand => h hand.1]

variable (document : Document)

/-- **One element**: its item is disclosed, or its absence is reported. -/
theorem addElement_eq (ns : String) (d : Disclosure) (element : String) :
    addElement document ns d element =
      match document.held ns element with
      | some item => d.addItem ns item
      | none => d.addError ns element := rfl

theorem items_addElement (ns ns' : String) (d : Disclosure) (element : String) :
    (addElement document ns d element).items ns' =
      d.items ns' ++ if ns' = ns then (document.held ns element).toList else [] := by
  rw [addElement_eq]
  cases document.held ns element with
  | some item => exact items_addItem d ns ns' item
  | none =>
    show d.items ns' = _
    rw [Option.toList_none, ite_self, List.append_nil]

theorem error_addElement (ns ns' : String) (d : Disclosure) (element element' : String) :
    (addElement document ns d element).error ns' element' =
      if (ns' = ns ∧ element' = element) ∧ document.held ns element = none
      then some .DataNotReturned else d.error ns' element' := by
  rw [addElement_eq]
  cases document.held ns element with
  | some item => exact (if_neg fun hand => by cases hand.2).symm
  | none =>
    show (d.addError ns element).error ns' element' = _
    rw [error_addError]
    by_cases h : ns' = ns ∧ element' = element
    · rw [if_pos h, if_pos ⟨h, rfl⟩]
    · rw [if_neg h, if_neg fun hand => h hand.1]

theorem items_foldl (ns ns' : String) (elements : List String) (d : Disclosure) :
    (elements.foldl (addElement document ns) d).items ns' =
      d.items ns' ++ if ns' = ns then elements.filterMap (document.held ns) else [] := by
  induction elements generalizing d with
  | nil => rw [List.foldl_nil, List.filterMap_nil, ite_self, List.append_nil]
  | cons element elements ih =>
    rw [List.foldl_cons, ih, items_addElement, List.append_assoc]
    by_cases h : ns' = ns
    · rw [if_pos h, if_pos h, if_pos h, List.filterMap_cons]
      cases document.held ns element <;> rfl
    · rw [if_neg h, if_neg h, if_neg h, List.append_nil]

theorem error_foldl (ns ns' : String) (elements : List String) (d : Disclosure)
    (element' : String) :
    (elements.foldl (addElement document ns) d).error ns' element' =
      if (ns' = ns ∧ element' ∈ elements) ∧ document.held ns element' = none
      then some .DataNotReturned else d.error ns' element' := by
  induction elements generalizing d with
  | nil =>
    rw [List.foldl_nil, if_neg]
    intro hand
    exact List.not_mem_nil hand.1.2
  | cons element elements ih =>
    rw [List.foldl_cons, ih, error_addElement]
    by_cases hns : ns' = ns
    · by_cases hhead : element' = element
      · rw [hhead]
        by_cases hnone : document.held ns element = none <;> simp [hns, hnone]
      · simp [hns, hhead]
    · simp [hns]

/-- **The disclosed items of a namespace are those that the document holds for its elements.** -/
theorem mem_ofNamespaces (namespaces : BTreeMap String (List String)) (ns : String)
    (item : IssuerSignedItemBytes) :
    item ∈ (ofNamespaces document namespaces).items ns ↔
      ∃ elements, namespaces[ns]? = some elements ∧
        ∃ element ∈ elements, document.held ns element = some item := by
  have hfold (l : List (String × List String)) (d : Disclosure) :
      item ∈ (l.foldl (fun d entry => entry.2.foldl (addElement document entry.1) d) d).items ns ↔
        item ∈ d.items ns ∨ ∃ elements, (ns, elements) ∈ l ∧
          ∃ element ∈ elements, document.held ns element = some item := by
    induction l generalizing d with
    | nil => simp
    | cons entry l ih =>
      obtain ⟨ns', elements⟩ := entry
      rw [List.foldl_cons, ih, items_foldl, List.mem_append]
      by_cases h : ns = ns'
      · rw [if_pos h, ← h]
        simp only [List.mem_filterMap, List.mem_cons, Prod.mk.injEq, true_and, or_and_right,
          exists_or, exists_eq_left, or_assoc]
      · rw [if_neg h]
        simp only [List.not_mem_nil, or_false, List.mem_cons, Prod.mk.injEq, h, false_and, false_or]
  have hempty : item ∉ (empty : Disclosure).items ns := by
    show item ∉ []
    exact List.not_mem_nil
  unfold ofNamespaces
  rw [hfold, or_iff_right hempty]
  simp only [BTreeMap.mem_toList]

/-- **The reported elements of a namespace are those that the document does not hold.** -/
theorem error_ofNamespaces (namespaces : BTreeMap String (List String)) (ns element : String) :
    (ofNamespaces document namespaces).error ns element = some .DataNotReturned ↔
      (∃ elements, namespaces[ns]? = some elements ∧ element ∈ elements) ∧
        document.held ns element = none := by
  have hfold (l : List (String × List String)) (d : Disclosure) :
      (l.foldl (fun d entry => entry.2.foldl (addElement document entry.1) d) d).error ns element =
          some .DataNotReturned ↔
        d.error ns element = some .DataNotReturned ∨
          (∃ elements, (ns, elements) ∈ l ∧ element ∈ elements) ∧
            document.held ns element = none := by
    induction l generalizing d with
    | nil => simp
    | cons entry l ih =>
      obtain ⟨ns', elements⟩ := entry
      rw [List.foldl_cons, ih, error_foldl]
      by_cases h : ns = ns'
      · rw [← h]
        by_cases hmem : element ∈ elements
        · by_cases hheld : document.held ns element = none
          · simp [hmem, hheld]
          · simp [hheld]
        · simp [hmem]
      · simp [h]
  have hempty : (empty : Disclosure).error ns element ≠ some .DataNotReturned := by
    intro h
    cases h
  unfold ofNamespaces
  rw [hfold, or_iff_right hempty]
  simp only [BTreeMap.mem_toList]

end Disclosure

/-! ## a prepared document -/

/-- the issuer-signed items of a namespace -/
def PreparedDocument.disclosed (d : PreparedDocument) (ns : String) :
    List IssuerSignedItemBytes :=
  ((d.issuerSigned.namespaces.bind fun m => m.toMap[ns]?).map NonEmptyVec.toList).getD []

/-- the error that is reported for an element -/
def PreparedDocument.reported (d : PreparedDocument) (ns element : String) :
    Option DocumentErrorCode :=
  (d.errors.bind fun m => m.toMap[ns]?).bind fun errors => errors.toMap[element]?

theorem tryFrom_getElem? {V : Type} (m : BTreeMap String V) (k : String) :
    (NonEmptyMap.tryFrom m).bind (fun n => n.toMap[k]?) = m[k]? := by
  cases h : NonEmptyMap.tryFrom m with
  | none =>
    have hempty : m = ∅ := by
      by_contra hne
      rw [NonEmptyMap.tryFrom_eq_some.mpr (show m = NonEmptyMap.toMap ⟨m, hne⟩ from rfl)] at h
      cases h
    rw [hempty]
    rfl
  | some n =>
    rw [NonEmptyMap.tryFrom_eq_some.mp h]
    rfl

theorem toOption_eq_some {E α : Type} {x : Except E α} {a : α} :
    x.toOption = some a ↔ x = .ok a := by
  cases x <;> simp [Except.toOption]

section
variable [Ciborium] [Coset] {S : Type} [Serialize S]

/-- the bytes that a device signs over, detached -/
def deviceAuthenticationBytes (sessionTranscript : S) (docType : String)
    (deviceNamespaces : DeviceNamespacesBytes) : Option Bytes := do
  let deviceAuth : DeviceAuthentication S := ⟨sessionTranscript, docType, deviceNamespaces⟩
  let deviceAuth ← (Tag24.new deviceAuth).toOption
  (toVec deviceAuth).toOption

/-- the document as it is prepared -/
def Document.prepared (document : Document) (docType : String)
    (namespaces : BTreeMap String (List String)) (deviceNamespaces : DeviceNamespacesBytes)
    (preparedCose : PreparedCose) : PreparedDocument where
  id := document.id
  docType
  issuerSigned :=
    { namespaces := NonEmptyMap.tryFrom (Disclosure.ofNamespaces document namespaces).issuerNamespaces
      issuerAuth := document.issuerAuth }
  deviceNamespaces
  preparedCose
  errors := NonEmptyMap.tryFrom (Disclosure.ofNamespaces document namespaces).errors

theorem Document.disclosed_prepared (document : Document) (docType ns : String)
    (namespaces : BTreeMap String (List String)) (deviceNamespaces : DeviceNamespacesBytes)
    (preparedCose : PreparedCose) :
    (document.prepared docType namespaces deviceNamespaces preparedCose).disclosed ns =
      (Disclosure.ofNamespaces document namespaces).items ns := by
  unfold PreparedDocument.disclosed Document.prepared
  rw [tryFrom_getElem?]
  rfl

theorem Document.reported_prepared (document : Document) (docType ns element : String)
    (namespaces : BTreeMap String (List String)) (deviceNamespaces : DeviceNamespacesBytes)
    (preparedCose : PreparedCose) :
    (document.prepared docType namespaces deviceNamespaces preparedCose).reported ns element =
      (Disclosure.ofNamespaces document namespaces).error ns element := by
  unfold PreparedDocument.reported Document.prepared
  rw [tryFrom_getElem?]
  rfl

/-- **What a prepared document is made of.** -/
theorem prepareDocument_eq_some {documents : Documents} {sessionTranscript : S}
    {deviceAuthType : DeviceAuthType} {docType : String}
    {namespaces : BTreeMap String (List String)} {d : PreparedDocument} :
    prepareDocument documents sessionTranscript deviceAuthType docType namespaces = some d ↔
      ∃ document signatureAlgorithm deviceNamespaces payload preparedCose,
        documents.toMap[docType]? = some document ∧
        document.mso.deviceKeyInfo.deviceKey.signatureAlgorithm = some signatureAlgorithm ∧
        Tag24.new (∅ : DeviceNamespaces) = .ok deviceNamespaces ∧
        deviceAuthenticationBytes sessionTranscript docType deviceNamespaces = some payload ∧
        prepareCose deviceAuthType signatureAlgorithm payload = some preparedCose ∧
        d = document.prepared docType namespaces deviceNamespaces preparedCose := by
  unfold prepareDocument deviceAuthenticationBytes
  simp only [bind, Option.bind_eq_some_iff, toOption_eq_some]
  constructor
  · intro h
    obtain ⟨document, hdocument, algorithm, halgorithm, deviceNamespaces, hnamespaces, deviceAuth,
      hauth, payload, hpayload, cose, hcose, heq⟩ := h
    exact ⟨document, algorithm, deviceNamespaces, payload, cose, hdocument, halgorithm, hnamespaces,
      ⟨deviceAuth, hauth, hpayload⟩, hcose, (Option.some.inj heq).symm⟩
  · intro h
    obtain ⟨document, algorithm, deviceNamespaces, payload, cose, hdocument, halgorithm, hnamespaces,
      ⟨deviceAuth, hauth, hpayload⟩, hcose, heq⟩ := h
    exact ⟨document, hdocument, algorithm, halgorithm, deviceNamespaces, hnamespaces, deviceAuth,
      hauth, payload, hpayload, cose, hcose, congrArg some heq.symm⟩

/-- the device key can sign, and the transcript can be signed over -/
def Document.Signs (document : Document) (sessionTranscript : S) : Prop :=
  (∃ algorithm, document.mso.deviceKeyInfo.deviceKey.signatureAlgorithm = some algorithm) ∧
    ∃ v, toValue sessionTranscript = .ok v

theorem new_deviceNamespaces : ∃ t, Tag24.new (∅ : DeviceNamespaces) = .ok t := by
  have h : toVec (∅ : DeviceNamespaces) = .ok (Ciborium.intoWriter (.map [])) := toVec_ok rfl
  exact ⟨_, Tag24.new_of_toVec h⟩

theorem deviceAuthenticationBytes_isSome (sessionTranscript : S) (docType : String)
    (deviceNamespaces : DeviceNamespacesBytes) :
    (∃ payload, deviceAuthenticationBytes sessionTranscript docType deviceNamespaces = some payload) ↔
      ∃ v, toValue sessionTranscript = .ok v := by
  unfold deviceAuthenticationBytes
  simp only [bind, Option.bind_eq_some_iff, toOption_eq_some]
  constructor
  · intro h
    obtain ⟨payload, deviceAuth, hauth, -⟩ := h
    obtain ⟨-, hvec⟩ := Tag24.new_ok hauth
    obtain ⟨v, hv, -⟩ := toVec_eq_ok hvec
    cases ht : toValue sessionTranscript with
    | ok t => exact ⟨t, rfl⟩
    | error e =>
      have herr : toValue (⟨sessionTranscript, docType, deviceNamespaces⟩ :
          DeviceAuthentication S) = .error e := by
        show (toValue sessionTranscript >>= _) = _
        rw [ht]
        rfl
      rw [herr] at hv
      cases hv
  · intro h
    obtain ⟨t, ht⟩ := h
    have hok : toValue (⟨sessionTranscript, docType, deviceNamespaces⟩ :
        DeviceAuthentication S) = .ok (.array [.text "DeviceAuthentication", t, .text docType,
          deviceNamespaces.toCbor]) := by
      show (toValue sessionTranscript >>= _) = _
      rw [ht]
      rfl
    exact ⟨_, _, Tag24.new_of_toVec (toVec_ok hok), Tag24.toVec_eq _⟩

theorem prepareCose_isSome (deviceAuthType : DeviceAuthType) (algorithm : Algorithm)
    (payload : Bytes) : ∃ cose, prepareCose deviceAuthType algorithm payload = some cose := by
  cases deviceAuthType <;> exact ⟨_, rfl⟩

/-- **A document is prepared when it is held and can be signed for.** -/
theorem prepareDocument_isSome {documents : Documents} {sessionTranscript : S}
    (deviceAuthType : DeviceAuthType) {docType : String}
    (namespaces : BTreeMap String (List String)) :
    (∃ d, prepareDocument documents sessionTranscript deviceAuthType docType namespaces = some d) ↔
      ∃ document, documents.toMap[docType]? = some document ∧ document.Signs sessionTranscript := by
  constructor
  · intro h
    obtain ⟨d, h⟩ := h
    obtain ⟨document, algorithm, deviceNamespaces, payload, cose, hdocument, halgorithm, -, hpayload,
      -, -⟩ := prepareDocument_eq_some.mp h
    exact ⟨document, hdocument, ⟨algorithm, halgorithm⟩,
      (deviceAuthenticationBytes_isSome _ _ _).mp ⟨payload, hpayload⟩⟩
  · intro h
    obtain ⟨document, hdocument, ⟨algorithm, halgorithm⟩, htranscript⟩ := h
    obtain ⟨deviceNamespaces, hnamespaces⟩ := new_deviceNamespaces
    obtain ⟨payload, hpayload⟩ := (deviceAuthenticationBytes_isSome sessionTranscript docType
      deviceNamespaces).mpr htranscript
    obtain ⟨cose, hcose⟩ := prepareCose_isSome deviceAuthType algorithm payload
    exact ⟨_, prepareDocument_eq_some.mpr ⟨document, algorithm, deviceNamespaces, payload, cose,
      hdocument, halgorithm, hnamespaces, hpayload, hcose, rfl⟩⟩

/-! ## a prepared response -/

theorem prepareDocuments_eq (documents : Documents) (sessionTranscript : S)
    (deviceAuthType : DeviceAuthType) (entries : List (String × BTreeMap String (List String))) :
    prepareDocuments documents sessionTranscript deviceAuthType entries =
      (entries.filterMap fun e =>
          prepareDocument documents sessionTranscript deviceAuthType e.1 e.2,
        entries.filterMap fun e =>
          if (prepareDocument documents sessionTranscript deviceAuthType e.1 e.2).isNone
          then some (dataNotReturned e.1) else none) := by
  induction entries with
  | nil => rfl
  | cons e entries ih =>
    obtain ⟨docType, namespaces⟩ := e
    rw [prepareDocuments, ih, List.filterMap_cons, List.filterMap_cons]
    cases prepareDocument documents sessionTranscript deviceAuthType docType namespaces <;> rfl

/-- the errors of a response, one for each document type that was not prepared -/
def PreparedDeviceResponse.errorList (r : PreparedDeviceResponse) : List DocumentError :=
  (r.documentErrors.map NonEmptyVec.toList).getD []

/-- the response discloses this item -/
def PreparedDeviceResponse.Discloses (r : PreparedDeviceResponse) (docType ns : String)
    (item : IssuerSignedItemBytes) : Prop :=
  ∃ d ∈ r.preparedDocuments, d.docType = docType ∧ item ∈ d.disclosed ns

theorem mem_dataNotReturned {docType docType' : String} :
    docType ∈ dataNotReturned docType' ↔ docType = docType' := by
  unfold dataNotReturned
  rw [BTreeMap.mem_insert, or_iff_left Std.ExtTreeMap.not_mem_empty]

theorem errorList_sessionPrepareResponse (documents : Documents) (sessionTranscript : S)
    (deviceAuthType : DeviceAuthType) (requests : RequestedItems) (permitted : PermittedItems) :
    (sessionPrepareResponse documents sessionTranscript deviceAuthType requests
      permitted).errorList =
      (prepareDocuments documents sessionTranscript deviceAuthType
        (filterPermitted requests permitted).toList).2 := by
  show ((NonEmptyVec.tryFrom (prepareDocuments documents sessionTranscript deviceAuthType
    (filterPermitted requests permitted).toList).2).map NonEmptyVec.toList).getD [] = _
  generalize (prepareDocuments documents sessionTranscript deviceAuthType
    (filterPermitted requests permitted).toList).2 = errors
  cases errors with
  | nil => rfl
  | cons e errors => rfl

/-- a prepared document is one that the filtered request asks for -/
theorem mem_preparedDocuments {documents : Documents} {sessionTranscript : S}
    {deviceAuthType : DeviceAuthType} {requests : RequestedItems} {permitted : PermittedItems}
    {d : PreparedDocument} :
    d ∈ (sessionPrepareResponse documents sessionTranscript deviceAuthType requests
        permitted).preparedDocuments ↔
      ∃ namespaces, (filterPermitted requests permitted)[d.docType]? = some namespaces ∧
        prepareDocument documents sessionTranscript deviceAuthType d.docType namespaces =
          some d := by
  show d ∈ (prepareDocuments documents sessionTranscript deviceAuthType
    (filterPermitted requests permitted).toList).1 ↔ _
  rw [prepareDocuments_eq, List.mem_filterMap]
  constructor
  · intro h
    obtain ⟨⟨docType, namespaces⟩, hmem, hd⟩ := h
    have hdoc : d.docType = docType := by
      obtain ⟨document, -, deviceNamespaces, -, cose, -, -, -, -, -, rfl⟩ :=
        prepareDocument_eq_some.mp hd
      rfl
    rw [hdoc]
    exact ⟨namespaces, BTreeMap.mem_toList.mp hmem, hd⟩
  · intro h
    obtain ⟨namespaces, hns, hd⟩ := h
    exact ⟨(d.docType, namespaces), BTreeMap.mem_toList.mpr hns, hd⟩

/-- **What a prepared document discloses and reports.** -/
theorem prepareDocument_spec {documents : Documents} {sessionTranscript : S}
    {deviceAuthType : DeviceAuthType} {docType : String}
    {namespaces : BTreeMap String (List String)} {d : PreparedDocument}
    (h : prepareDocument documents sessionTranscript deviceAuthType docType namespaces = some d) :
    ∃ document, documents.toMap[docType]? = some document ∧ document.Signs sessionTranscript ∧
      (∀ ns item, item ∈ d.disclosed ns ↔ ∃ elements, namespaces[ns]? = some elements ∧
        ∃ element ∈ elements, document.held ns element = some item) ∧
      (∀ ns element, d.reported ns element = some .DataNotReturned ↔
        (∃ elements, namespaces[ns]? = some elements ∧ element ∈ elements) ∧
          document.held ns element = none) := by
  obtain ⟨document, algorithm, deviceNamespaces, payload, cose, hdocument, halgorithm, -, hpayload,
    -, rfl⟩ := prepareDocument_eq_some.mp h
  refine ⟨document, hdocument,
    ⟨⟨algorithm, halgorithm⟩, (deviceAuthenticationBytes_isSome _ _ _).mp ⟨payload, hpayload⟩⟩, ?_, ?_⟩
  · intro ns item
    rw [document.disclosed_prepared]
    exact Disclosure.mem_ofNamespaces document namespaces ns item
  · intro ns element
    rw [document.reported_prepared]
    exact Disclosure.error_ofNamespaces document namespaces ns element

/-- what `f` makes of the entry with the key `k`, picked out of what it makes of all entries -/
theorem filter_filterMap_key {V W : Type} {l : List (String × V)} {f : String × V → Option W}
    {p : W → Bool} {k : String} {v : V} (hp : ∀ e w, f e = some w → (p w = true ↔ e.1 = k))
    (hl : (l.map Prod.fst).Nodup) (h : (k, v) ∈ l) :
    (l.filterMap f).filter p = (f (k, v)).toList := by
  have hnone (l : List (String × V)) (hk : k ∉ l.map Prod.fst) : (l.filterMap f).filter p = [] := by
    rw [List.filter_eq_nil_iff]
    intro w hw heq
    obtain ⟨e, he, hf⟩ := List.mem_filterMap.mp hw
    apply hk
    rw [← (hp e w hf).mp heq]
    exact List.mem_map_of_mem he
  induction l with
  | nil => cases h
  | cons e l ih =>
    rw [List.map_cons, List.nodup_cons] at hl
    rw [List.filterMap_cons]
    cases List.mem_cons.mp h with
    | inl heq =>
      subst heq
      cases hf : f (k, v) with
      | none => exact hnone l hl.1
      | some w =>
        rw [List.filter_cons, if_pos ((hp _ w hf).mpr rfl), hnone l hl.1]
        rfl
    | inr hmem =>
      have hne : e.1 ≠ k := by
        intro heq
        apply hl.1
        rw [heq]
        exact List.mem_map_of_mem hmem
      cases hf : f e with
      | none => exact ih hl.2 hmem
      | some w =>
        rw [List.filter_cons, if_neg fun heq => hne ((hp e w hf).mp heq)]
        exact ih hl.2 hmem

/-- **A document type that was asked for is answered once**, with a document or with an error. -/
theorem answered_once {documents : Documents} {sessionTranscript : S}
    {deviceAuthType : DeviceAuthType} {requests : RequestedItems} {permitted : PermittedItems}
    {docType : String} (h : docType ∈ filterPermitted requests permitted) :
    let r := sessionPrepareResponse documents sessionTranscript deviceAuthType requests permitted
    (∃ d, r.preparedDocuments.filter (fun d => d.docType = docType) = [d] ∧
      r.errorList.filter (fun e => docType ∈ e) = []) ∨
    (r.preparedDocuments.filter (fun d => d.docType = docType) = [] ∧
      r.errorList.filter (fun e => docType ∈ e) = [dataNotReturned docType]) := by
  intro r
  obtain ⟨namespaces, hns⟩ := BTreeMap.mem_iff_getElem?.mp h
  have hmem := BTreeMap.mem_toList.mpr hns
  have hnd := BTreeMap.toList_keys_nodup (filterPermitted requests permitted)
  have hdocs : r.preparedDocuments.filter (fun d => d.docType = docType) =
      (prepareDocument documents sessionTranscript deviceAuthType docType namespaces).toList := by
    show (prepareDocuments documents sessionTranscript deviceAuthType
      (filterPermitted requests permitted).toList).1.filter _ = _
    rw [prepareDocuments_eq]
    refine filter_filterMap_key (fun e w hw => ?_) hnd hmem
    obtain ⟨document, -, deviceNamespaces, -, cose, -, -, -, -, -, rfl⟩ :=
      prepareDocument_eq_some.mp hw
    exact decide_eq_true_iff
  have herrors : r.errorList.filter (fun e => docType ∈ e) =
      if (prepareDocument documents sessionTranscript deviceAuthType docType namespaces).isNone
      then [dataNotReturned docType] else [] := by
    rw [errorList_sessionPrepareResponse, prepareDocuments_eq]
    have hkey := filter_filterMap_key
      (f := fun e : String × BTreeMap String (List String) =>
        if (prepareDocument documents sessionTranscript deviceAuthType e.1 e.2).isNone
        then some (dataNotReturned e.1) else none)
      (p := fun e => docType ∈ e) (fun e w hw => ?_) hnd hmem
    · rw [hkey]
      split <;> rfl
    · by_cases hnone :
          (prepareDocument documents sessionTranscript deviceAuthType e.1 e.2).isNone = true
      · rw [if_pos hnone] at hw
        cases hw
        rw [decide_eq_true_iff, mem_dataNotReturned, eq_comm]
      · rw [if_neg hnone] at hw
        cases hw
  rw [hdocs, herrors]
  cases prepareDocument documents sessionTranscript deviceAuthType docType namespaces with
  | some d => exact .inl ⟨d, rfl, rfl⟩
  | none => exact .inr ⟨rfl, rfl⟩

/-- **Exact disclosure**: a response discloses the surviving elements of the documents that can be
signed for, reports the elements they do not hold, and answers every document type once -/
structure DisclosesExactly (documents : Documents) (sessionTranscript : S)
    (requests : RequestedItems) (permitted : PermittedItems) (r : PreparedDeviceResponse) :
    Prop where
  disclosed : ∀ docType ns item, r.Discloses docType ns item ↔
    ∃ document, documents.toMap[docType]? = some document ∧ document.Signs sessionTranscript ∧
      ∃ element, Survives requests permitted docType ns element ∧
        document.held ns element = some item
  accounted : ∀ d ∈ r.preparedDocuments, ∃ document, documents.toMap[d.docType]? = some document ∧
    ∀ ns element, Survives requests permitted d.docType ns element →
      ((∃ item ∈ d.disclosed ns, document.held ns element = some item) ∨
        d.reported ns element = some .DataNotReturned) ∧
      ¬ ((∃ item ∈ d.disclosed ns, document.held ns element = some item) ∧
        d.reported ns element = some .DataNotReturned)
  answered : ∀ docType ∈ filterPermitted requests permitted,
    (∃ d, r.preparedDocuments.filter (fun d => d.docType = docType) = [d] ∧
      r.errorList.filter (fun e => docType ∈ e) = []) ∨
    (r.preparedDocuments.filter (fun d => d.docType = docType) = [] ∧
      r.errorList.filter (fun e => docType ∈ e) = [dataNotReturned docType])
  justified : ∀ docType ns item, r.Discloses docType ns item →
    ∃ document element, documents.toMap[docType]? = some document ∧
      document.held ns element = some item ∧ Permits permitted docType ns element ∧
      Requests requests docType ns element

/-- **Selective disclosure is exact.** -/
theorem sessionPrepareResponse_exact (documents : Documents) (sessionTranscript : S)
    (deviceAuthType : DeviceAuthType) (requests : RequestedItems) (permitted : PermittedItems) :
    DisclosesExactly documents sessionTranscript requests permitted
      (sessionPrepareResponse documents sessionTranscript deviceAuthType requests permitted) := by
  have hdisclosed (docType ns : String) (item : IssuerSignedItemBytes) :
      (sessionPrepareResponse documents sessionTranscript deviceAuthType requests
          permitted).Discloses docType ns item ↔
        ∃ document, documents.toMap[docType]? = some document ∧ document.Signs sessionTranscript ∧
          ∃ element, Survives requests permitted docType ns element ∧
            document.held ns element = some item := by
    constructor
    · intro h
      obtain ⟨d, hd, rfl, hitem⟩ := h
      obtain ⟨namespaces, hns, hprepared⟩ := mem_preparedDocuments.mp hd
      obtain ⟨document, hdocument, hsigns, hitems, -⟩ := prepareDocument_spec hprepared
      obtain ⟨elements, helements, element, hmem, hheld⟩ := (hitems ns item).mp hitem
      exact ⟨document, hdocument, hsigns, element, ⟨namespaces, elements, hns, helements, hmem⟩,
        hheld⟩
    · intro h
      obtain ⟨document, hdocument, hsigns, element, ⟨namespaces, elements, hns, helements, hmem⟩,
        hheld⟩ := h
      obtain ⟨d, hprepared⟩ := (prepareDocument_isSome deviceAuthType namespaces).mpr
        ⟨document, hdocument, hsigns⟩
      have hdoc : d.docType = docType := by
        obtain ⟨document', -, deviceNamespaces, -, cose, -, -, -, -, -, rfl⟩ :=
          prepareDocument_eq_some.mp hprepared
        rfl
      obtain ⟨document', hdocument', -, hitems, -⟩ := prepareDocument_spec hprepared
      rw [hdocument] at hdocument'
      cases hdocument'
      refine ⟨d, mem_preparedDocuments.mpr ?_, hdoc,
        (hitems ns item).mpr ⟨elements, helements, element, hmem, hheld⟩⟩
      rw [hdoc]
      exact ⟨namespaces, hns, hprepared⟩
  refine ⟨hdisclosed, ?_, fun docType h => answered_once h, ?_⟩
  · intro d hd
    obtain ⟨namespaces, hns, hprepared⟩ := mem_preparedDocuments.mp hd
    obtain ⟨document, hdocument, -, hitems, herrors⟩ := prepareDocument_spec hprepared
    refine ⟨document, hdocument, ?_⟩
    intro ns element hsurvives
    obtain ⟨namespaces', elements, hns', helements, hmem⟩ := hsurvives
    rw [hns] at hns'
    cases hns'
    cases hheld : document.held ns element with
    | some item =>
      refine ⟨.inl ⟨item, (hitems ns item).mpr ⟨elements, helements, element, hmem, hheld⟩, rfl⟩, ?_⟩
      intro hboth
      have hnone := ((herrors ns element).mp hboth.2).2
      rw [hheld] at hnone
      cases hnone
    | none =>
      refine ⟨.inr ((herrors ns element).mpr ⟨⟨elements, helements, hmem⟩, hheld⟩), ?_⟩
      intro hboth
      obtain ⟨item, -, hsome⟩ := hboth.1
      cases hsome
  · intro docType ns item h
    obtain ⟨document, hdocument, -, element, hsurvives, hheld⟩ := (hdisclosed docType ns item).mp h
    obtain ⟨hpermits, hrequests⟩ := hsurvives.permits_requests
    exact ⟨document, element, hdocument, hheld, hpermits, hrequests⟩

end

namespace Sample

section
open scoped Reference

/-- an item with the bytes it is written as -/
def tag24 {T : Type} (inner : T) (v : Value) : Tag24 T := ⟨inner, Ciborium.intoWriter v⟩

/-- the base point of the curve -/
def coseKey : CoseKey := .EC2 .P256
  (beBytes 32 0x6b17d1f2e12c4247f8bce6e563a440f277037d812deb33a0f4a13945d898c296)
  (.value (beBytes 32 0x4fe342e2fe1a7f9b8ee7eb4a7c0f9e162bce33576b315ececbb6406837bf51f5))

def deviceEngagement : DeviceEngagement where
  version := "1.0"
  security := ⟨1, tag24 coseKey coseKey.toCbor⟩
  deviceRetrievalMethods := none
  serverRetrievalMethods := none
  protocolInfo := none

def sessionTranscript : SessionTranscript180135 where
  deviceEngagementBytes :=
    tag24 deviceEngagement (.map [(.int 0, .text "1.0"),
      (.int 1, .array [.int 1, (tag24 coseKey coseKey.toCbor).toCbor])])
  eReaderKeyBytes := tag24 coseKey coseKey.toCbor
  handover := .QR

end

def mso (deviceKey : CoseKey) : Mso where
  version := "1.0"
  digestAlgorithm := .SHA256
  valueDigests := ∅
  deviceKeyInfo := ⟨deviceKey, none, none⟩
  docType := "org.iso.18013.5.1.mDL"
  validityInfo := ⟨⟨0, 0, 0⟩, ⟨0, 0, 0⟩, ⟨0, 0, 0⟩, none⟩

def familyName : IssuerSignedItemBytes :=
  ⟨⟨DigestId.new 1, ⟨[1, 2, 3]⟩, "family_name", .text "Mustermann"⟩, []⟩

/-- the documents of a holder with one document, which has one item -/
def documents (deviceKey : CoseKey) : Documents :=
  NonEmptyMap.new "org.iso.18013.5.1.mDL"
    { id := ⟨List.replicate 16 0, rfl⟩
      issuerAuth := ⟨false, ⟨⟨none, Header.empty⟩, Header.empty, none, []⟩⟩
      mso := mso deviceKey
      namespaces := NonEmptyMap.new "org.iso.18013.5.1" (NonEmptyMap.new "family_name" familyName) }

def permitted : PermittedItems :=
  (∅ : PermittedItems).insert "org.iso.18013.5.1.mDL"
    ((∅ : BTreeMap String (List String)).insert "org.iso.18013.5.1" ["family_name"])

def requests : RequestedItems :=
  [⟨"org.iso.18013.5.1.mDL",
    NonEmptyMap.new "org.iso.18013.5.1" (NonEmptyMap.new "family_name" false), none⟩]

/-- a session that nothing was sent in -/
def sessionManager (trustedVerifiers : TrustAnchorRegistry) : SessionManager where
  documents := documents coseKey
  sessionTranscript := sessionTranscript
  skDevice := ⟨List.replicate 32 1, rfl⟩
  deviceMessageCounter := 0
  skReader := ⟨List.replicate 32 2, rfl⟩
  readerMessageCounter := 0
  state := .AwaitingRequest
  trustedVerifiers
  deviceAuthType := .Sign1

end Sample

open scoped Reference in
/-- A held and permitted item of a document whose device key only agrees on keys is not
disclosed. -/
theorem keyAgreement_not_disclosed :
    ¬ ∀ (documents : Documents) (sessionTranscript : SessionTranscript180135)
      (deviceAuthType : DeviceAuthType) (requests : RequestedItems) (permitted : PermittedItems)
      (docType ns : String) (item : IssuerSignedItemBytes),
      (sessionPrepareResponse documents sessionTranscript deviceAuthType requests
        permitted).Discloses docType ns item ↔
        ∃ document, documents.toMap[docType]? = some document ∧
          ∃ element, Survives requests permitted docType ns element ∧
            document.held ns element = some item := by
  intro h
  have hdiscloses := (h (Sample.documents (.OKP .X25519 [])) Sample.sessionTranscript .Mac0
    Sample.requests Sample.permitted "org.iso.18013.5.1.mDL" "org.iso.18013.5.1"
    Sample.familyName).mpr
    ⟨_, rfl, "family_name", ⟨_, _, rfl, rfl, List.mem_singleton_self _⟩, rfl⟩
  obtain ⟨d, hd, -⟩ := hdiscloses
  have hlength : (sessionPrepareResponse (Sample.documents (.OKP .X25519 []))
      Sample.sessionTranscript .Mac0 Sample.requests
      Sample.permitted).preparedDocuments.length = 0 := by
    decide +kernel
  rw [List.length_eq_zero_iff.mp hlength] at hd
  cases hd

end Device

end Isomdl
