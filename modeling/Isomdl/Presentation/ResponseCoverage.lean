import Isomdl.Decoding
import Isomdl.Presentation.Delivery
import Isomdl.Presentation.ResponseParsing

/-!
# What an outcome shows of a response (`presentation/reader.rs`)

The reader leaves out the values that it cannot read, the entries of maps whose keys are not text,
and all but one of the values under one key or identifier; it looks at one document.  A value is
represented by its JSON when nothing in it is left out (`Represents`).

* `parseResponse_of_represents`     a value that can be represented is;
* `handleResponse_accounts_iff`     when every item is in the outcome, or an error is.
-/

set_option linter.unusedSectionVars false

namespace Isomdl

open Cbor

namespace Reader

/-! ## the fields of an object -/

theorem ne_of_compare_lt {a b : String} (h : compare a b = .lt) : b ≠ a := by
  intro heq
  rw [heq, Std.compare_self] at h
  cases h

theorem mem_insertField {key : String} {j : Json} {fields : List (String × Json)}
    (h : fields.Pairwise fun a b => compare a.1 b.1 = .lt) (e : String × Json) :
    e ∈ insertField key j fields ↔ e = (key, j) ∨ e.1 ≠ key ∧ e ∈ fields := by
  induction fields with
  | nil => simp [insertField]
  | cons f fields ih =>
    obtain ⟨hf, hfields⟩ := List.pairwise_cons.mp h
    obtain ⟨l, w⟩ := f
    rw [insertField]
    cases hcompare : compare key l with
    | lt =>
      have hne : ∀ e ∈ (l, w) :: fields, e.1 ≠ key := by
        intro e he
        rcases List.mem_cons.mp he with rfl | he
        · exact ne_of_compare_lt hcompare
        · exact ne_of_compare_lt (Std.TransCmp.lt_trans hcompare (hf e he))
      simp only [List.mem_cons (a := e)]
      constructor
      · rintro (heq | he)
        · exact .inl heq
        · exact .inr ⟨hne e (List.mem_cons.mpr he), he⟩
      · rintro (heq | ⟨-, he⟩)
        · exact .inl heq
        · exact .inr he
    | eq =>
      have hkey : key = l := Std.LawfulEqCmp.eq_of_compare hcompare
      subst hkey
      have hne : ∀ e ∈ fields, e.1 ≠ key := fun e he => ne_of_compare_lt (hf e he)
      simp only [List.mem_cons (a := e)]
      constructor
      · rintro (heq | he)
        · exact .inl heq
        · exact .inr ⟨hne e he, .inr he⟩
      · rintro (heq | ⟨hkey, rfl | he⟩)
        · exact .inl heq
        · exact absurd rfl hkey
        · exact .inr he
    | gt =>
      have hl : l ≠ key := (ne_of_compare_lt (Std.OrientedCmp.gt_iff_lt.mp hcompare)).symm
      simp only [List.mem_cons (a := e), ih hfields]
      constructor
      · rintro (rfl | heq | ⟨hkey, he⟩)
        · exact .inr ⟨hl, .inl rfl⟩
        · exact .inl heq
        · exact .inr ⟨hkey, .inr he⟩
      · rintro (heq | ⟨hkey, rfl | he⟩)
        · exact .inr (.inl heq)
        · exact .inl rfl
        · exact .inr (.inr ⟨hkey, he⟩)

theorem pairwise_insertField {key : String} {j : Json} {fields : List (String × Json)}
    (h : fields.Pairwise fun a b => compare a.1 b.1 = .lt) :
    (insertField key j fields).Pairwise fun a b => compare a.1 b.1 = .lt := by
  induction fields with
  | nil => simp [insertField]
  | cons f fields ih =>
    obtain ⟨hf, hfields⟩ := List.pairwise_cons.mp h
    obtain ⟨l, w⟩ := f
    rw [insertField]
    cases hcompare : compare key l with
    | lt =>
      refine List.pairwise_cons.mpr ⟨fun e he => ?_, h⟩
      rcases List.mem_cons.mp he with rfl | he
      · exact hcompare
      · exact Std.TransCmp.lt_trans hcompare (hf e he)
    | eq =>
      have hkey : key = l := Std.LawfulEqCmp.eq_of_compare hcompare
      subst hkey
      exact List.pairwise_cons.mpr ⟨hf, hfields⟩
    | gt =>
      refine List.pairwise_cons.mpr ⟨fun e he => ?_, ih hfields⟩
      rcases (mem_insertField hfields e).mp he with rfl | ⟨-, he⟩
      · exact Std.OrientedCmp.gt_iff_lt.mp hcompare
      · exact hf e he

/-- **Insertion into an object is insertion into a map.** -/
theorem insertField_toList (m : BTreeMap String Json) (key : String) (j : Json) :
    insertField key j m.toList = (m.insert key j).toList := by
  have hordered : m.toList.Pairwise fun a b => compare a.1 b.1 = .lt :=
    Std.ExtTreeMap.ordered_keys_toList
  refine BTreeMap.eq_toList_of_mem_iff (pairwise_insertField hordered) ?_
  rintro ⟨l, w⟩
  rw [mem_insertField hordered, BTreeMap.mem_toList, BTreeMap.mem_toList,
    BTreeMap.getElem?_insert]
  by_cases hl : l = key
  · simp [hl, eq_comm]
  · simp [hl]

/-! ## representation -/

mutual

/-- The JSON shows the value and all that is in it.  A tag on a text is not shown. -/
def Represents : Value → Json → Prop
  | .text s, j => j = .string s
  | .tag _ v, j =>
    match v with
    | .text s => j = .string s
    | _ => False
  | .bytes b, j => j = .array (b.map fun byte => .number byte.toNat)
  | .bool b, j => j = .bool b
  | .integer i, j => JsonNumber i ∧ j = .number i.1
  | .array vs, j => ∃ js, j = .array js ∧ RepresentsAll vs js
  | .map kvs, j => ∃ m : BTreeMap String Json, j = .object m.toList ∧ RepresentsEntries kvs m ∧
      ∀ key ∈ m, ∃ v, (.text key, v) ∈ kvs
  | _, _ => False

def RepresentsAll : List Value → List Json → Prop
  | [], js => js = []
  | v :: vs, js => ∃ j rest, js = j :: rest ∧ Represents v j ∧ RepresentsAll vs rest

/-- every entry has a text key, under which its value is shown -/
def RepresentsEntries : List (Value × Value) → BTreeMap String Json → Prop
  | [], _ => True
  | (k, v) :: kvs, m =>
    (∃ key j, k = .text key ∧ m[key]? = some j ∧ Represents v j) ∧ RepresentsEntries kvs m

end

mutual

/-- **A value that can be represented is represented by what is read of it.** -/
theorem parseResponse_of_represents :
    ∀ (v : Value) (j : Json), Represents v j → parseResponse v = some (.ok j)
  | .text s, j, h => by
    cases h
    rfl
  | .tag t v, j, h => by
    cases v with
    | text s =>
      cases h
      rfl
    | _ => cases h
  | .bytes b, j, h => by
    cases h
    rfl
  | .bool b, j, h => by
    cases h
    rfl
  | .integer i, j, h => by
    obtain ⟨hi, rfl⟩ := h
    have hnumber : jsonI128 i.1 = some (.number i.1) := if_pos ⟨hi, i.2.2⟩
    rw [parseResponse, hnumber]
  | .array vs, j, h => by
    obtain ⟨js, rfl, hall⟩ := h
    rw [parseResponse_array, parseElements_of_represents vs js hall]
    rfl
  | .map kvs, j, h => by
    obtain ⟨m, rfl, hentries, hkeys⟩ := h
    obtain ⟨m', hparsed, hkey, hother⟩ := parseEntries_of_represents kvs m hentries ∅
    have hm : m' = m := by
      refine Std.ExtTreeMap.ext_getElem? fun key => ?_
      by_cases hmem : ∃ v, (Value.text key, v) ∈ kvs
      · obtain ⟨v, hv⟩ := hmem
        exact hkey key v hv
      · have hnot : key ∉ m := fun h => hmem (hkeys key h)
        rw [hother key fun v hv => hmem ⟨v, hv⟩, BTreeMap.getElem?_eq_none_iff.mpr hnot]
        rfl
    have hstart : ((∅ : BTreeMap String Json).toList) = [] := rfl
    rw [hstart, hm] at hparsed
    rw [parseResponse_map, hparsed]
    rfl
  | .null, j, h => by cases h
  | .float bits, j, h => by cases h

theorem parseElements_of_represents :
    ∀ (vs : List Value) (js : List Json), RepresentsAll vs js → parseElements vs = some (.ok js)
  | [], js, h => by
    cases h
    rfl
  | v :: vs, js, h => by
    obtain ⟨j, rest, rfl, hv, hvs⟩ := h
    rw [parseElements_cons, parseResponse_of_represents v j hv,
      parseElements_of_represents vs rest hvs]
    rfl

theorem parseEntries_of_represents :
    ∀ (kvs : List (Value × Value)) (m : BTreeMap String Json), RepresentsEntries kvs m →
      ∀ start : BTreeMap String Json, ∃ m' : BTreeMap String Json,
        parseEntries kvs start.toList = some (.ok m'.toList) ∧
          (∀ key v, (.text key, v) ∈ kvs → m'[key]? = m[key]?) ∧
          ∀ key, (∀ v, (.text key, v) ∉ kvs) → m'[key]? = start[key]?
  | [], m, h, start => ⟨start, rfl, fun key v hv => absurd hv List.not_mem_nil, fun key hkey => rfl⟩
  | (k, v) :: kvs, m, h, start => by
    obtain ⟨⟨key, j, rfl, hj, hv⟩, hkvs⟩ := h
    obtain ⟨m', hparsed, hkey, hother⟩ :=
      parseEntries_of_represents kvs m hkvs (start.insert key j)
    refine ⟨m', ?_, fun key' w hw => ?_, fun key' hnot => ?_⟩
    · rw [parseEntries_text, parseResponse_of_represents v j hv]
      show parseEntries kvs (insertField key j start.toList) = _
      rw [insertField_toList, hparsed]
    · by_cases hlater : ∃ w, (Value.text key', w) ∈ kvs
      · obtain ⟨w, hw⟩ := hlater
        exact hkey key' w hw
      · have heq : key' = key := by
          rcases List.mem_cons.mp hw with hhead | htail
          · cases hhead
            rfl
          · exact absurd ⟨w, htail⟩ hlater
        rw [hother key' fun w hw => hlater ⟨w, hw⟩, BTreeMap.getElem?_insert, if_pos heq, heq, hj]
    · have hne : key' ≠ key := by
        intro heq
        rw [heq] at hnot
        exact hnot v List.mem_cons_self
      rw [hother key' fun w hw => hnot w (List.mem_cons_of_mem _ hw), BTreeMap.getElem?_insert,
        if_neg hne]

end

/-! ## the items of a response -/

/-- an item in a namespace of the document -/
def HoldsItem (document : DeviceResponse.Document) (ns : String) (item : IssuerSignedItemBytes) :
    Prop :=
  ∃ namespaces items, document.issuerSigned.namespaces = some namespaces ∧
    namespaces.toMap[ns]? = some items ∧ item ∈ items.toList

/-- an item of an mDL in the response, in a namespace that the reader knows -/
def Transmits (deviceResponse : DeviceResponse) (ns : String) (item : IssuerSignedItemBytes) :
    Prop :=
  ∃ documents document, deviceResponse.documents = some documents ∧ document ∈ documents.toList ∧
    document.docType = MDL_DOC_TYPE ∧ ns ∈ [CORE_NAMESPACE, AAMVA_NAMESPACE] ∧
    HoldsItem document ns item

/-- the item's value is shown under its identifier -/
def ShowsItem (response : BTreeMap String Json) (ns : String) (item : IssuerSignedItemBytes) : Prop :=
  ∃ fields j, response[ns]? = some (.object fields) ∧ (item.inner.elementIdentifier, j) ∈ fields ∧
    Represents item.inner.elementValue j

def NothingLost (deviceResponse : DeviceResponse) (response : BTreeMap String Json) : Prop :=
  ∀ ns item, Transmits deviceResponse ns item → ShowsItem response ns item

/-- the document has an item for the identifier, and one JSON shows all that it has -/
def CanShow (document : DeviceResponse.Document) (ns : String) (item : IssuerSignedItemBytes) :
    Prop :=
  ∃ j, Represents item.inner.elementValue j ∧
    (∃ other, HoldsItem document ns other ∧
      other.inner.elementIdentifier = item.inner.elementIdentifier) ∧
    ∀ other, HoldsItem document ns other →
      other.inner.elementIdentifier = item.inner.elementIdentifier →
        Represents other.inner.elementValue j

/-- the document can show every item of the response -/
def Showable (deviceResponse : DeviceResponse) (document : DeviceResponse.Document) : Prop :=
  ∀ ns item, Transmits deviceResponse ns item → CanShow document ns item

theorem represents_unique {v : Value} {j j' : Json} (h : Represents v j) (h' : Represents v j') :
    j = j' := by
  have hj := parseResponse_of_represents v j h
  rw [parseResponse_of_represents v j' h'] at hj
  cases hj
  rfl

theorem not_panics_of_represents {v : Value} {j : Json} (h : Represents v j) : ¬ Panics v := by
  rw [← (parseResponse_spec v).panics_iff, parseResponse_of_represents v j h]
  nofun

/-- **What the items under an identifier parse to is shown there**, when it is one value. -/
theorem parseItems_getElem? {items : List IssuerSignedItemBytes} {start parsed : BTreeMap String Json}
    (h : parseItems items start = some parsed) {elementIdentifier : String} {j : Json}
    (hall : ∀ item ∈ items, item.inner.elementIdentifier = elementIdentifier →
      parseResponse item.inner.elementValue = some (.ok j))
    (hsome : start[elementIdentifier]? = some j ∨
      ∃ item ∈ items, item.inner.elementIdentifier = elementIdentifier) :
    parsed[elementIdentifier]? = some j := by
  induction items generalizing start with
  | nil =>
    cases h
    rcases hsome with hstart | ⟨item, hitem, -⟩
    · exact hstart
    · exact absurd hitem List.not_mem_nil
  | cons item items ih =>
    have hrest : ∀ other ∈ items, other.inner.elementIdentifier = elementIdentifier →
        parseResponse other.inner.elementValue = some (.ok j) := fun other hmem =>
      hall other (List.mem_cons_of_mem item hmem)
    unfold parseItems at h
    by_cases hid : item.inner.elementIdentifier = elementIdentifier
    · rw [hall item List.mem_cons_self hid] at h
      refine ih h hrest (.inl ?_)
      rw [BTreeMap.getElem?_insert, if_pos hid.symm]
    · have hnext : start[elementIdentifier]? = some j ∨
          ∃ other ∈ items, other.inner.elementIdentifier = elementIdentifier := by
        refine hsome.imp_right ?_
        rintro ⟨other, hmem, hother⟩
        rcases List.mem_cons.mp hmem with rfl | hmem
        · exact absurd hother hid
        · exact ⟨other, hmem, hother⟩
      cases hval : parseResponse item.inner.elementValue with
      | none =>
        rw [hval] at h
        cases h
      | some result =>
        rw [hval] at h
        cases result with
        | error e => exact ih h hrest hnext
        | ok val =>
          refine ih h hrest (hnext.imp_left fun hstart => ?_)
          rw [BTreeMap.getElem?_insert, if_neg fun heq => hid heq.symm]
          exact hstart

/-- **Values that agree under an identifier are shown there.** -/
theorem parseItems_shows {items : List IssuerSignedItemBytes} {start parsed : BTreeMap String Json}
    (h : parseItems items start = some parsed) {elementIdentifier : String} {j : Json}
    (hall : ∀ item ∈ items, item.inner.elementIdentifier = elementIdentifier →
      Represents item.inner.elementValue j)
    (hsome : start[elementIdentifier]? = some j ∨
      ∃ item ∈ items, item.inner.elementIdentifier = elementIdentifier) :
    parsed[elementIdentifier]? = some j :=
  parseItems_getElem? h
    (fun item hmem hid => parseResponse_of_represents _ _ (hall item hmem hid)) hsome

/-! ## the namespaces -/

def HasCore (document : DeviceResponse.Document) : Prop :=
  ∃ namespaces, document.issuerSigned.namespaces = some namespaces ∧
    CORE_NAMESPACE ∈ namespaces.toMap

theorem parseNamespaces_of_not_hasCore {deviceResponse : DeviceResponse}
    {document : DeviceResponse.Document} (hdoc : getDocument deviceResponse = .ok document)
    (h : ¬ HasCore document) : ∃ e, parseNamespaces deviceResponse = some (.error e) := by
  unfold parseNamespaces
  simp only [hdoc]
  cases hns : document.issuerSigned.namespaces with
  | none => exact ⟨_, rfl⟩
  | some namespaces =>
    have hcore : namespaces.toMap[CORE_NAMESPACE]? = none :=
      BTreeMap.getElem?_eq_none_iff.mpr fun hmem => h ⟨namespaces, hns, hmem⟩
    simp only [hcore]
    exact ⟨_, rfl⟩

theorem parseNamespaces_of_hasCore {deviceResponse : DeviceResponse}
    {document : DeviceResponse.Document} (hdoc : getDocument deviceResponse = .ok document)
    (h : HasCore document) (hpanics : ¬ DocumentPanics document) :
    ∃ parsed, parseNamespaces deviceResponse = some (.ok parsed) := by
  have hreturns : parseNamespaces deviceResponse ≠ none := by
    intro hnone
    obtain ⟨document', hdoc', hpanics'⟩ := (parseNamespaces_eq_none_iff deviceResponse).mp hnone
    rw [hdoc] at hdoc'
    cases hdoc'
    exact hpanics hpanics'
  obtain ⟨namespaces, hns, hmem⟩ := h
  obtain ⟨items, hitems⟩ := BTreeMap.mem_iff_getElem?.mp hmem
  unfold parseNamespaces at hreturns ⊢
  simp only [hdoc, hns, hitems] at hreturns ⊢
  cases hcore : parseItems items.toList ∅ with
  | none =>
    rw [hcore] at hreturns
    exact absurd rfl hreturns
  | some core =>
    simp only [hcore] at hreturns ⊢
    cases haamva : namespaces.toMap[AAMVA_NAMESPACE]? with
    | none => exact ⟨_, rfl⟩
    | some items =>
      simp only [haamva] at hreturns ⊢
      cases hparsed : parseItems items.toList ∅ with
      | none =>
        rw [hparsed] at hreturns
        exact absurd rfl hreturns
      | some aamva => exact ⟨_, rfl⟩

/-- **What is parsed of a namespace is under its name.** -/
theorem parseNamespaces_lookup {deviceResponse : DeviceResponse}
    {document : DeviceResponse.Document} (hdoc : getDocument deviceResponse = .ok document)
    {parsed : BTreeMap String Json} (h : parseNamespaces deviceResponse = some (.ok parsed))
    {ns : String} (hread : ns ∈ [CORE_NAMESPACE, AAMVA_NAMESPACE])
    {namespaces : NonEmptyMap String (NonEmptyVec IssuerSignedItemBytes)}
    (hns : document.issuerSigned.namespaces = some namespaces)
    {items : NonEmptyVec IssuerSignedItemBytes} (hitems : namespaces.toMap[ns]? = some items) :
    ∃ values, parseItems items.toList ∅ = some values ∧
      parsed[ns]? = some (.object values.toList) := by
  have hne : AAMVA_NAMESPACE ≠ CORE_NAMESPACE := by decide
  unfold parseNamespaces at h
  simp only [hdoc, hns] at h
  cases hcore : namespaces.toMap[CORE_NAMESPACE]? with
  | none =>
    rw [hcore] at h
    cases h
  | some coreItems =>
    simp only [hcore] at h
    cases hparsedCore : parseItems coreItems.toList ∅ with
    | none =>
      rw [hparsedCore] at h
      cases h
    | some core =>
      simp only [hparsedCore] at h
      rcases List.mem_cons.mp hread with rfl | haamvaNs
      · rw [hitems] at hcore
        cases hcore
        refine ⟨core, hparsedCore, ?_⟩
        cases haamva : namespaces.toMap[AAMVA_NAMESPACE]? with
        | none =>
          rw [haamva] at h
          cases h
          rw [BTreeMap.getElem?_insert, if_pos rfl]
          rfl
        | some aamvaItems =>
          simp only [haamva] at h
          cases hparsedAamva : parseItems aamvaItems.toList ∅ with
          | none =>
            rw [hparsedAamva] at h
            cases h
          | some aamva =>
            rw [hparsedAamva] at h
            cases h
            rw [BTreeMap.getElem?_insert, if_neg hne.symm, BTreeMap.getElem?_insert, if_pos rfl]
            rfl
      · obtain rfl := List.mem_singleton.mp haamvaNs
        simp only [hitems] at h
        cases hparsedAamva : parseItems items.toList ∅ with
        | none =>
          rw [hparsedAamva] at h
          cases h
        | some aamva =>
          rw [hparsedAamva] at h
          cases h
          refine ⟨aamva, rfl, ?_⟩
          rw [BTreeMap.getElem?_insert, if_pos rfl]
          rfl

/-- the document that the reader looks at transmits its items -/
theorem transmits_of_holdsItem {deviceResponse : DeviceResponse}
    {document : DeviceResponse.Document} (hdoc : getDocument deviceResponse = .ok document)
    {ns : String} (hread : ns ∈ [CORE_NAMESPACE, AAMVA_NAMESPACE]) {item : IssuerSignedItemBytes}
    (h : HoldsItem document ns item) : Transmits deviceResponse ns item := by
  obtain ⟨documents, hdocuments, hmem, htype⟩ := getDocument_ok hdoc
  exact ⟨documents, document, hdocuments, hmem, htype, hread, h⟩

/-- **What is parsed loses nothing exactly when the document can show every item.** -/
theorem nothingLost_iff_showable {deviceResponse : DeviceResponse}
    {document : DeviceResponse.Document} (hdoc : getDocument deviceResponse = .ok document)
    {parsed : BTreeMap String Json} (h : parseNamespaces deviceResponse = some (.ok parsed)) :
    NothingLost deviceResponse parsed ↔ Showable deviceResponse document := by
  constructor
  · intro hnothing ns item htransmits
    have hread : ns ∈ [CORE_NAMESPACE, AAMVA_NAMESPACE] := by
      obtain ⟨documents, document', -, -, -, hread, -⟩ := htransmits
      exact hread
    obtain ⟨fields, j, hfields, hj, hvalue⟩ := hnothing ns item htransmits
    obtain ⟨fields', heq, hholds⟩ := parseNamespaces_ok hdoc h ns _ hfields
    cases heq
    obtain ⟨namespaces, items, found, hns, hitems, hfound, hid, -⟩ := hholds _ _ hj
    refine ⟨j, hvalue, ⟨found, ⟨namespaces, items, hns, hitems, hfound⟩, hid⟩, ?_⟩
    intro other hother hotherId
    obtain ⟨values, -, hvalues⟩ := parseNamespaces_lookup hdoc h hread hns hitems
    obtain ⟨fields', j', hfields', hj', hvalue'⟩ :=
      hnothing ns other (transmits_of_holdsItem hdoc hread hother)
    rw [hfields] at hvalues hfields'
    cases hvalues
    cases hfields'
    have hget := BTreeMap.mem_toList.mp hj
    have hget' := BTreeMap.mem_toList.mp hj'
    rw [hotherId, hget] at hget'
    cases hget'
    exact hvalue'
  · intro hshowable ns item htransmits
    have hread : ns ∈ [CORE_NAMESPACE, AAMVA_NAMESPACE] := by
      obtain ⟨documents, document', -, -, -, hread, -⟩ := htransmits
      exact hread
    obtain ⟨j, hvalue, ⟨found, hfound, hid⟩, hall⟩ := hshowable ns item htransmits
    obtain ⟨namespaces, items, hns, hitems, hmem⟩ := hfound
    obtain ⟨values, hvalues, hlookup⟩ := parseNamespaces_lookup hdoc h hread hns hitems
    refine ⟨values.toList, j, hlookup, BTreeMap.mem_toList.mpr ?_, hvalue⟩
    refine parseItems_shows hvalues (fun other hother hotherId => ?_) (.inr ⟨found, hmem, hid⟩)
    exact hall other ⟨namespaces, items, hns, hitems, hother⟩ hotherId

theorem not_documentPanics_of_showable {deviceResponse : DeviceResponse}
    {document : DeviceResponse.Document} (hdoc : getDocument deviceResponse = .ok document)
    (h : Showable deviceResponse document) : ¬ DocumentPanics document := by
  rintro ⟨namespaces, hns, -, ns, hread, items, hitems, item, hitem, hpanics⟩
  have hholds : HoldsItem document ns item := ⟨namespaces, items, hns, hitems, hitem⟩
  obtain ⟨j, hvalue, -⟩ := h ns item (transmits_of_holdsItem hdoc hread hholds)
  exact not_panics_of_represents hvalue hpanics

/-! ## the outcome -/

section
variable [Ciborium] [Coset] [Rfc3339] [X509Cert] [P256] [Sha2] [Clock]

theorem validateDevice_errors {document : DeviceResponse.Document}
    {sessionTranscript : SessionTranscript180135} {outcome : ResponseAuthenticationOutcome}
    (h : outcome.errors = ∅) :
    (validateDevice document sessionTranscript outcome).errors = ∅ ↔
      deviceAuthentication document sessionTranscript = .ok () := by
  unfold validateDevice
  cases deviceAuthentication document sessionTranscript with
  | ok u => simp [h]
  | error e => simp

theorem validateIssuer_errors {trustAnchorRegistry : TrustAnchorRegistry} {x5chain : X5Chain}
    {document : DeviceResponse.Document} {outcome : ResponseAuthenticationOutcome} :
    (validateIssuer trustAnchorRegistry x5chain document outcome).errors = ∅ ↔
      outcome.errors = ∅ ∧ IssuerVerified trustAnchorRegistry x5chain document := by
  have hvalid : (validateIssuer trustAnchorRegistry x5chain document
      outcome).issuerAuthentication = .Valid ↔ _ := validateIssuer_valid
  rw [← hvalid, validateIssuer]
  cases ValidationRuleset.Mdl.validate x5chain trustAnchorRegistry with
  | nil => cases issuerAuthentication x5chain document.issuerSigned <;> simp
  | cons e errors => simp

/-- both signatures verify, under a chain that the trust anchors accept -/
structure Verified (sm : SessionManager) (x5chain : X5Chain) (document : DeviceResponse.Document) :
    Prop where
  device : deviceAuthentication document sm.sessionTranscript = .ok ()
  issuer : IssuerVerified sm.trustAnchorRegistry x5chain document

theorem validateResponse_errors {sm : SessionManager} {x5chain : X5Chain}
    {document : DeviceResponse.Document} {namespaces : BTreeMap String Json} :
    (validateResponse sm.sessionTranscript sm.trustAnchorRegistry x5chain document
      namespaces).errors = ∅ ↔ Verified sm x5chain document := by
  rw [validateResponse, validateIssuer_errors, validateDevice_errors rfl]
  exact ⟨fun h => ⟨h.1, h.2⟩, fun h => ⟨h.device, h.issuer⟩⟩

/-- the reader reports an error, whatever the items -/
inductive Rejects (sm : SessionManager) (document : DeviceResponse.Document) : Prop
  | x5chain (h : ¬ ∃ x5chain, issuerX5Chain document = .ok x5chain)
  | core (h : ¬ HasCore document)
  | unverified (x5chain : X5Chain) (hchain : issuerX5Chain document = .ok x5chain)
    (h : ¬ Verified sm x5chain document) (hpanics : ¬ DocumentPanics document)

/-- the outcome reports an error, or shows every item -/
def Accounts (deviceResponse : DeviceResponse) (outcome : ResponseAuthenticationOutcome) : Prop :=
  outcome.errors ≠ ∅ ∨ NothingLost deviceResponse outcome.response

theorem parse_of_not_x5chain {deviceResponse : DeviceResponse} {document : DeviceResponse.Document}
    (hdoc : getDocument deviceResponse = .ok document)
    (h : ¬ ∃ x5chain, issuerX5Chain document = .ok x5chain) :
    ∃ e, parse deviceResponse = some (.error e) := by
  unfold parse
  simp only [hdoc]
  cases hchain : issuerX5Chain document with
  | error e => exact ⟨e, rfl⟩
  | ok x5chain => exact absurd ⟨x5chain, hchain⟩ h

theorem parse_of_x5chain {deviceResponse : DeviceResponse} {document : DeviceResponse.Document}
    (hdoc : getDocument deviceResponse = .ok document) {x5chain : X5Chain}
    (hchain : issuerX5Chain document = .ok x5chain) :
    parse deviceResponse =
      (parseNamespaces deviceResponse).map (Except.map fun parsed => (document, x5chain, parsed)) := by
  unfold parse
  simp only [hdoc, hchain]
  rcases parseNamespaces deviceResponse with _ | e | parsed <;> rfl

section
variable [AesGcm]

theorem handleResponse_of_parse {sm sm' : SessionManager} {message : Bytes}
    {deviceResponse : DeviceResponse}
    (hdecrypt : sm.decryptResponse message = (.ok deviceResponse, sm')) (P : _ → Prop) :
    (∃ outcome sm'', sm.handleResponse message = some (outcome, sm'') ∧ P outcome) ↔
      (∃ e, parse deviceResponse = some (.error e) ∧ P (.error "parsing_errors" e.display)) ∨
      ∃ document x5chain namespaces,
        parse deviceResponse = some (.ok (document, x5chain, namespaces)) ∧
          P (validateResponse sm'.sessionTranscript sm'.trustAnchorRegistry x5chain document
            namespaces) := by
  unfold SessionManager.handleResponse
  simp only [hdecrypt]
  rcases parse deviceResponse with _ | e | ⟨document, x5chain, namespaces⟩ <;> simp

/-- **When no item is silently lost.**  For every message that decrypts to a response with an mDL:
the outcome reports an error or shows every item of the response exactly when the reader reports an
error before it looks at the items or on their signatures, or the document that it looks at can show
every item. -/
theorem handleResponse_accounts_iff {sm sm' : SessionManager} {message : Bytes}
    {deviceResponse : DeviceResponse} {document : DeviceResponse.Document}
    (hdecrypt : sm.decryptResponse message = (.ok deviceResponse, sm'))
    (hdoc : getDocument deviceResponse = .ok document) :
    (∃ outcome sm'', sm.handleResponse message = some (outcome, sm'') ∧
        Accounts deviceResponse outcome) ↔
      Rejects sm' document ∨ Showable deviceResponse document := by
  rw [handleResponse_of_parse hdecrypt]
  have hreported (e : Error) :
      Accounts deviceResponse (.error "parsing_errors" e.display) := by
    refine .inl ?_
    simp [ResponseAuthenticationOutcome.error]
  by_cases hchain : ∃ x5chain, issuerX5Chain document = .ok x5chain
  case neg =>
    obtain ⟨e, hparse⟩ := parse_of_not_x5chain hdoc hchain
    exact ⟨fun _ => .inl (.x5chain hchain), fun _ => .inl ⟨e, hparse, hreported e⟩⟩
  obtain ⟨x5chain, hchain⟩ := hchain
  have hparse := parse_of_x5chain hdoc hchain
  by_cases hcore : HasCore document
  case neg =>
    obtain ⟨e, he⟩ := parseNamespaces_of_not_hasCore hdoc hcore
    rw [he] at hparse
    exact ⟨fun _ => .inl (.core hcore), fun _ => .inl ⟨e, hparse, hreported e⟩⟩
  have hrejects : Rejects sm' document ↔ ¬ Verified sm' x5chain document ∧ ¬ DocumentPanics document := by
    constructor
    · intro h
      cases h with
      | x5chain h => exact absurd ⟨x5chain, hchain⟩ h
      | core h => exact absurd hcore h
      | unverified chain hx5 h hnot =>
        rw [hchain] at hx5
        cases hx5
        exact ⟨h, hnot⟩
    · exact fun h => .unverified x5chain hchain h.1 h.2
  rw [hrejects]
  by_cases hpanics : DocumentPanics document
  case pos =>
    rw [(parseNamespaces_eq_none_iff deviceResponse).mpr ⟨document, hdoc, hpanics⟩] at hparse
    have hnot : ¬ Showable deviceResponse document := fun h =>
      not_documentPanics_of_showable hdoc h hpanics
    rw [hparse]
    simp [hpanics, hnot]
  obtain ⟨namespaces, hns⟩ := parseNamespaces_of_hasCore hdoc hcore hpanics
  rw [hns] at hparse
  have hresponse : (validateResponse sm'.sessionTranscript sm'.trustAnchorRegistry x5chain document
      namespaces).response = namespaces := by
    rw [validateResponse, validateIssuer_response, validateDevice_response]
  have haccounts : Accounts deviceResponse (validateResponse sm'.sessionTranscript
      sm'.trustAnchorRegistry x5chain document namespaces) ↔
        ¬ Verified sm' x5chain document ∨ Showable deviceResponse document := by
    have herrors : (validateResponse sm'.sessionTranscript sm'.trustAnchorRegistry x5chain document
        namespaces).errors = ∅ ↔ _ := validateResponse_errors
    rw [← herrors, ← nothingLost_iff_showable hdoc hns]
    unfold Accounts
    rw [hresponse]
  rw [and_iff_left hpanics, ← haccounts, hparse]
  constructor
  · rintro (⟨e, heq, -⟩ | ⟨document', chain, parsed, heq, h⟩)
    · cases heq
    · cases heq
      exact h
  · exact fun h => .inr ⟨document, x5chain, namespaces, rfl, h⟩

end

end

open scoped Reference

namespace Sample

/-- a key of equal bytes -/
def sessionKey (b : UInt8) : SessionKey := ⟨List.replicate 32 b, List.length_replicate⟩

/-- a reader session with these issuers -/
def session : SessionManager where
  sessionTranscript := Device.Sample.sessionTranscript
  skDevice := sessionKey 1
  deviceMessageCounter := 0
  skReader := sessionKey 2
  readerMessageCounter := 0
  trustAnchorRegistry := trustedIssuers

/-- the first message of a device that sends these bytes -/
theorem exists_message {bytes : Bytes} {response : DeviceResponse}
    (h : fromSlice DeviceResponse bytes = .ok response) :
    ∃ message, session.decryptResponse message =
      (.ok response, { session with deviceMessageCounter := 1 }) := by
  let sealing : Sealing :=
    ⟨session.skDevice, initializationVector 1 false, bytes,
      Gcm.encrypt session.skDevice.1 (initializationVector 1 false).1 bytes⟩
  have hmessage : toVec (⟨some ⟨sealing.ciphertext⟩, none⟩ : SessionData) = .ok _ := rfl
  have hcarries := carriedCiphertext_toVec hmessage
  have hsealed : System.SealedAt session.skDevice false session.deviceMessageCounter 0 sealing :=
    ⟨rfl, 1, rfl, rfl⟩
  obtain ⟨count, hcount, hdecrypt⟩ :=
    SessionManager.decryptResponse_of_sealedAt hsealed rfl h hcarries
  have hone : count = 1 := UInt32.toNat_inj.mp hcount
  rw [hone] at hdecrypt
  exact ⟨_, hdecrypt⟩

/-- the document, with a signature of the device over no elements -/
def signed (items : NonEmptyVec IssuerSignedItemBytes) : DeviceResponse :=
  { response with documents := some (NonEmptyVec.new { tampered with
      issuerSigned := { namespaces := some (NonEmptyMap.new CORE_NAMESPACE items), issuerAuth }
      deviceSigned := { tampered.deviceSigned with
        deviceAuth := .deviceSignature ⟨false,
          { protectedHeader := ⟨some [0xa1, 0x01, 0x26], Header.ofAlgorithm .ES256⟩
            unprotected := Header.empty
            payload := none
            signature := deviceSignature }⟩ } }) }

/-- the reader receives a response, as it is read back from its encoding -/
theorem exists_received {response : DeviceResponse} {check : DeviceResponse → Bool}
    (h : ((toVec response).toOption.any fun bytes =>
      (fromSlice DeviceResponse bytes).toOption.any check) = true) :
    ∃ message received, session.decryptResponse message =
      (.ok received, { session with deviceMessageCounter := 1 }) ∧ check received = true := by
  obtain ⟨bytes, -, hread⟩ := exists_ok_of_any h
  obtain ⟨received, hreceived, hcheck⟩ := exists_ok_of_any hread
  obtain ⟨message, hdecrypt⟩ := exists_message hreceived
  exact ⟨message, received, hdecrypt, hcheck⟩

/-- the reader reports no error for the document, and its first item is null -/
def losesNull (response : DeviceResponse) : Bool :=
  (parse response).any fun result => result.toOption.any fun parsed =>
    (validateResponse session.sessionTranscript session.trustAnchorRegistry parsed.2.1 parsed.1
      parsed.2.2).errors.isEmpty &&
    parsed.1.issuerSigned.namespaces.any fun namespaces =>
      (namespaces.toMap[CORE_NAMESPACE]?).any fun items =>
        items.toList.head?.any fun item => item.inner.elementValue = .null

end Sample

theorem handleResponse_accounts_iff_sample : ∃ message response document,
    Sample.session.decryptResponse message =
        (.ok response, { Sample.session with deviceMessageCounter := 1 }) ∧
      getDocument response = .ok document ∧
      ((∃ outcome sm, Sample.session.handleResponse message = some (outcome, sm) ∧
          Accounts response outcome) ↔
        Rejects { Sample.session with deviceMessageCounter := 1 } document ∨
          Showable response document) := by
  have hread : ((toVec Sample.response).toOption.any fun bytes =>
      (fromSlice DeviceResponse bytes).toOption.any fun response => (getDocument response).isOk) =
        true := by
    decide +kernel
  obtain ⟨message, response, hdecrypt, hok⟩ := Sample.exists_received hread
  cases hdoc : getDocument response with
  | error e =>
    rw [hdoc] at hok
    cases hok
  | ok document =>
    exact ⟨message, response, document, hdecrypt, hdoc, handleResponse_accounts_iff hdecrypt hdoc⟩

/-- A null is lost without an error. -/
theorem null_not_accounted :
    ¬ ∀ (sm sm' : SessionManager) (message : Bytes) (deviceResponse : DeviceResponse)
      (document : DeviceResponse.Document), sm.decryptResponse message = (.ok deviceResponse, sm') →
      getDocument deviceResponse = .ok document →
      ∃ outcome sm'', sm.handleResponse message = some (outcome, sm'') ∧
        Accounts deviceResponse outcome := by
  intro h
  have hread : ((toVec (Sample.signed (NonEmptyVec.new (Sample.itemOf "family_name" .null)))
      ).toOption.any fun bytes => (fromSlice DeviceResponse bytes).toOption.any Sample.losesNull) =
        true := by
    decide +kernel
  obtain ⟨message, response, hdecrypt, hloses⟩ := Sample.exists_received hread
  rw [Sample.losesNull, Option.any_eq_true] at hloses
  obtain ⟨result, hparse, hloses⟩ := hloses
  obtain ⟨⟨document, x5chain, namespaces⟩, hresult, hloses⟩ := exists_ok_of_any hloses
  rw [hresult] at hparse
  rw [Bool.and_eq_true] at hloses
  obtain ⟨herrors, hnull⟩ := hloses
  obtain ⟨issuerNamespaces, hns, hnull⟩ := Option.any_eq_true _ _ |>.mp hnull
  obtain ⟨items, hitems, hnull⟩ := Option.any_eq_true _ _ |>.mp hnull
  obtain ⟨item, hhead, hnull⟩ := Option.any_eq_true _ _ |>.mp hnull
  have hdoc := (parse_ok hparse).1
  have haccounts := h Sample.session _ message response document hdecrypt hdoc
  rw [handleResponse_of_parse hdecrypt] at haccounts
  rw [hparse] at haccounts
  obtain ⟨e, heq, -⟩ | ⟨document', chain, parsed, heq, haccounts⟩ := haccounts
  · cases heq
  cases heq
  rcases haccounts with hreported | hnothing
  · exact hreported (Std.ExtTreeMap.isEmpty_iff.mp herrors)
  · have hitem : item ∈ items.toList := List.mem_of_head? hhead
    obtain ⟨fields, j, -, -, hvalue⟩ := hnothing CORE_NAMESPACE item
      (transmits_of_holdsItem hdoc List.mem_cons_self ⟨issuerNamespaces, items, hns, hitems, hitem⟩)
    rw [of_decide_eq_true hnull] at hvalue
    exact hvalue

end Reader

end Isomdl
