import Isomdl.Cose
import Isomdl.Definitions.Helpers

/-!
# Device requests (`definitions/device_request.rs`)

A reader asks for the elements of one or more documents; every `DocRequest` may carry its own
reader signature.

* `ItemsRequest.fromSlice_toVec`    the items of a request read back;
* `DeviceRequest.ofValue_toValue`   so does a request for one document without a signature.
-/

namespace Isomdl

open Cbor

/-- `Namespaces`: for each namespace the elements, with the intent to retain them -/
abbrev RequestNamespaces := NonEmptyMap String (NonEmptyMap String Bool)

structure ItemsRequest where
  docType : String
  namespaces : RequestNamespaces
  requestInfo : Option (BTreeMap String Value)

instance : Serialize ItemsRequest where
  toValue i := structValue
    [("docType", some (toValue i.docType)), ("nameSpaces", some (toValue i.namespaces)),
     ("requestInfo", i.requestInfo.map toValue)]

instance : Deserialize ItemsRequest where
  ofValue v := do
    let fields ← Fields.ofValue "ItemsRequest" v
    let docType ← fields.required "docType" String
    let namespaces ← fields.required "nameSpaces" RequestNamespaces
    let requestInfo ← fields.optional "requestInfo" (BTreeMap String Value)
    .ok { docType, namespaces, requestInfo }

abbrev ItemsRequestBytes := Tag24 ItemsRequest

structure UseCase where
  mandatory : Bool
  documentSets : NonEmptyVec (NonEmptyVec UInt64)
  purposeHints : Option (NonEmptyMap String Int64)

instance : Serialize UseCase where
  toValue u := structValue
    [("mandatory", some (toValue u.mandatory)), ("documentSets", some (toValue u.documentSets)),
     ("purposeHints", u.purposeHints.map toValue)]

instance : Deserialize UseCase where
  ofValue v := do
    let fields ← Fields.ofValue "UseCase" v
    let mandatory ← fields.required "mandatory" Bool
    let documentSets ← fields.required "documentSets" (NonEmptyVec (NonEmptyVec UInt64))
    let purposeHints ← fields.optional "purposeHints" (NonEmptyMap String Int64)
    .ok { mandatory, documentSets, purposeHints }

structure DeviceRequestInfo where
  useCases : NonEmptyVec UseCase

instance : Serialize DeviceRequestInfo where
  toValue i := structValue [("useCases", some (toValue i.useCases))]

instance : Deserialize DeviceRequestInfo where
  ofValue v := do
    let fields ← Fields.ofValue "DeviceRequestInfo" v
    let useCases ← fields.required "useCases" (NonEmptyVec UseCase)
    .ok { useCases }

structure DocRequest where
  itemsRequest : ItemsRequestBytes
  readerAuth : Option (MaybeTagged CoseSign1)

structure DeviceRequest where
  version : String
  docRequests : NonEmptyVec DocRequest
  readerAuthAll : Option (NonEmptyVec (MaybeTagged CoseSign1))
  deviceRequestInfo : Option (Tag24 DeviceRequestInfo)

def DeviceRequest.VERSION : String := "1.0"

section
variable [Ciborium] [Coset]

instance : Serialize DocRequest where
  toValue d := structValue
    [("itemsRequest", some (toValue d.itemsRequest)), ("readerAuth", d.readerAuth.map toValue)]

instance : Deserialize DocRequest where
  ofValue v := do
    let fields ← Fields.ofValue "DocRequest" v
    let itemsRequest ← fields.required "itemsRequest" ItemsRequestBytes
    let readerAuth ← fields.optional "readerAuth" (MaybeTagged CoseSign1)
    .ok { itemsRequest, readerAuth }

instance : Serialize DeviceRequest where
  toValue r := structValue
    [("version", some (toValue r.version)), ("docRequests", some (toValue r.docRequests)),
     ("readerAuthAll", r.readerAuthAll.map toValue),
     ("deviceRequestInfo", r.deviceRequestInfo.map toValue)]

instance : Deserialize DeviceRequest where
  ofValue v := do
    let fields ← Fields.ofValue "DeviceRequest" v
    let version ← fields.required "version" String
    let docRequests ← fields.required "docRequests" (NonEmptyVec DocRequest)
    let readerAuthAll ← fields.optional "readerAuthAll" (NonEmptyVec (MaybeTagged CoseSign1))
    let deviceRequestInfo ← fields.optional "deviceRequestInfo" (Tag24 DeviceRequestInfo)
    .ok { version, docRequests, readerAuthAll, deviceRequestInfo }

end

/-! ## requests read back -/

/-- the elements of one namespace -/
def elementsValue (elements : NonEmptyMap String Bool) : Value :=
  .map (elements.toMap.toList.map fun e => (.text e.1, .bool e.2))

def RequestNamespaces.value (namespaces : RequestNamespaces) : Value :=
  .map (namespaces.toMap.toList.map fun e => (.text e.1, elementsValue e.2))

theorem RequestNamespaces.toValue_eq (namespaces : RequestNamespaces) :
    toValue namespaces = .ok (RequestNamespaces.value namespaces) :=
  toValue_textMap (V := NonEmptyMap String Bool)
    (fun v => toValue_textMap (V := Bool) (fun _ => rfl) v.toMap) namespaces.toMap

theorem RequestNamespaces.ofValue_value (namespaces : RequestNamespaces) :
    ofValue (RequestNamespaces.value namespaces) = .ok namespaces :=
  NonEmptyMap.ofValue_textMap (V := NonEmptyMap String Bool)
    (fun v => NonEmptyMap.ofValue_textMap (V := Bool) (fun _ => rfl) v) namespaces

theorem RequestNamespaces.plain (namespaces : RequestNamespaces) (n : ℕ) :
    (RequestNamespaces.value namespaces).Plain (n + 2) := by
  rw [value, Value.plain_map]
  intro e he
  obtain ⟨⟨ns, elements⟩, -, rfl⟩ := List.mem_map.mp he
  refine ⟨Value.plain_text _ _, ?_⟩
  rw [elementsValue, Value.plain_map]
  intro e he
  obtain ⟨⟨element, retain⟩, -, rfl⟩ := List.mem_map.mp he
  exact ⟨Value.plain_text _ _, Value.plain_bool _ _⟩

namespace ItemsRequest

/-- the fields of a request without further information -/
def fields (i : ItemsRequest) : List (String × Option Value) :=
  [("docType", some (.text i.docType)), ("nameSpaces", some (RequestNamespaces.value i.namespaces)),
   ("requestInfo", none)]

theorem toValue_eq {i : ItemsRequest} (hinfo : i.requestInfo = none) :
    toValue i = .ok (.map ((BTreeMap.present i.fields).map fun e => (.text e.1, e.2))) := by
  show structValue [("docType", some (.ok (.text i.docType))),
    ("nameSpaces", some (toValue i.namespaces)), ("requestInfo", i.requestInfo.map toValue)] = _
  rw [hinfo, RequestNamespaces.toValue_eq]
  exact structValue_present i.fields

theorem ofValue_toValue {i : ItemsRequest} (hinfo : i.requestInfo = none) :
    ofValue (.map ((BTreeMap.present i.fields).map fun e => (.text e.1, e.2))) = .ok i := by
  obtain ⟨docType, namespaces, requestInfo⟩ := i
  cases hinfo
  have hnodup : ((fields ⟨docType, namespaces, none⟩).map Prod.fst).Nodup := by simp [fields]
  have hdoc := Fields.required_present (α := String) (a := docType) hnodup
    List.mem_cons_self rfl
  have hns := Fields.required_present (α := RequestNamespaces) (a := namespaces) hnodup
    (List.mem_cons_of_mem _ List.mem_cons_self) (RequestNamespaces.ofValue_value namespaces)
  have hinfo := Fields.optional_present (α := BTreeMap String Value) (a := none) hnodup
    (List.mem_cons_of_mem _ (List.mem_cons_of_mem _ List.mem_cons_self)) (.inl ⟨rfl, rfl⟩)
  show (Fields.ofValue _ _ >>= _) = _
  rw [Fields.ofValue_present, ok_bind, hdoc, ok_bind, hns, ok_bind, hinfo, ok_bind]

theorem plain (i : ItemsRequest) (n : ℕ) :
    (Value.map ((BTreeMap.present i.fields).map fun e => (.text e.1, e.2))).Plain (n + 3) := by
  apply plain_present
  intro e he v hv
  simp only [fields, List.mem_cons, List.not_mem_nil, or_false] at he
  rcases he with rfl | rfl | rfl
  · cases hv
    exact Value.plain_text _ _
  · cases hv
    exact RequestNamespaces.plain _ n
  · cases hv

/-- **The items of a request read back.** -/
theorem fromSlice_toVec [LawfulCiborium] {i : ItemsRequest} (hinfo : i.requestInfo = none)
    {bytes : Bytes} (h : toVec i = .ok bytes) : fromSlice ItemsRequest bytes = .ok i := by
  obtain ⟨v, hv, rfl⟩ := toVec_eq_ok h
  rw [toValue_eq hinfo] at hv
  cases hv
  exact LawfulCiborium.fromSlice_intoWriter (i.plain 13) (ofValue_toValue hinfo)

end ItemsRequest

namespace DocRequest

/-- the fields of a request without a signature -/
def fields (d : DocRequest) : List (String × Option Value) :=
  [("itemsRequest", some d.itemsRequest.toCbor), ("readerAuth", none)]

def unsignedValue (d : DocRequest) : Value :=
  .map ((BTreeMap.present d.fields).map fun e => (.text e.1, e.2))

section
variable [Coset] {d : DocRequest}

theorem toValue_eq (hauth : d.readerAuth = none) : toValue d = .ok d.unsignedValue := by
  show structValue [("itemsRequest", some (.ok d.itemsRequest.toCbor)),
    ("readerAuth", d.readerAuth.map toValue)] = _
  rw [hauth]
  exact structValue_present d.fields

theorem ofValue_toValue [Ciborium] (hauth : d.readerAuth = none)
    (hitems : fromSlice ItemsRequest d.itemsRequest.innerBytes = .ok d.itemsRequest.inner) :
    ofValue d.unsignedValue = .ok d := by
  obtain ⟨itemsRequest, readerAuth⟩ := d
  cases hauth
  have hnodup : ((fields ⟨itemsRequest, none⟩).map Prod.fst).Nodup := by simp [fields]
  have hread := Fields.required_present (α := ItemsRequestBytes) (a := itemsRequest) hnodup
    List.mem_cons_self (Tag24.ofValue_toCbor hitems)
  have hnone := Fields.optional_present (α := MaybeTagged CoseSign1) (a := none) hnodup
    (List.mem_cons_of_mem _ List.mem_cons_self) (.inl ⟨rfl, rfl⟩)
  show (Fields.ofValue _ _ >>= _) = _
  rw [unsignedValue, Fields.ofValue_present, ok_bind, hread, ok_bind, hnone, ok_bind]

end

theorem plain (d : DocRequest) (n : ℕ) : d.unsignedValue.Plain (n + 2) := by
  apply plain_present
  intro e he v hv
  simp only [fields, List.mem_cons, List.not_mem_nil, or_false] at he
  rcases he with rfl | rfl
  · cases hv
    exact ⟨by decide, by decide, Value.plain_bytes _ _⟩
  · cases hv

end DocRequest

namespace DeviceRequest

/-- the fields of a request without signatures -/
def fields (r : DeviceRequest) : List (String × Option Value) :=
  [("version", some (.text r.version)),
   ("docRequests", some (.array (r.docRequests.toList.map DocRequest.unsignedValue))),
   ("readerAuthAll", none), ("deviceRequestInfo", none)]

/-- a request without signatures and whose items read back -/
structure Unsigned [Ciborium] (r : DeviceRequest) : Prop where
  readerAuth : ∀ d ∈ r.docRequests.toList, d.readerAuth = none
  items : ∀ d ∈ r.docRequests.toList,
    fromSlice ItemsRequest d.itemsRequest.innerBytes = .ok d.itemsRequest.inner
  readerAuthAll : r.readerAuthAll = none
  deviceRequestInfo : r.deviceRequestInfo = none

section
variable [Ciborium] [Coset] {r : DeviceRequest}

theorem toValue_eq (h : r.Unsigned) :
    toValue r = .ok (.map ((BTreeMap.present r.fields).map fun e => (.text e.1, e.2))) := by
  have hdocs : toValue r.docRequests =
      .ok (.array (r.docRequests.toList.map DocRequest.unsignedValue)) :=
    toValue_array fun d hd => DocRequest.toValue_eq (h.readerAuth d hd)
  show structValue [("version", some (.ok (.text r.version))),
    ("docRequests", some (toValue r.docRequests)), ("readerAuthAll", r.readerAuthAll.map toValue),
    ("deviceRequestInfo", r.deviceRequestInfo.map toValue)] = _
  rw [hdocs, h.readerAuthAll, h.deviceRequestInfo]
  exact structValue_present r.fields

theorem ofValue_toValue (h : r.Unsigned) :
    ofValue (.map ((BTreeMap.present r.fields).map fun e => (.text e.1, e.2))) = .ok r := by
  obtain ⟨version, docRequests, readerAuthAll, deviceRequestInfo⟩ := r
  obtain ⟨hauth, hitems, hall, hinfo⟩ := h
  cases hall
  cases hinfo
  have hnodup : ((fields ⟨version, docRequests, none, none⟩).map Prod.fst).Nodup := by
    simp [fields]
  have hversion := Fields.required_present (α := String) (a := version) hnodup
    List.mem_cons_self rfl
  have hdocs := Fields.required_present (α := NonEmptyVec DocRequest) (a := docRequests) hnodup
    (List.mem_cons_of_mem _ List.mem_cons_self)
    (docRequests.ofValue_array fun d hd =>
      DocRequest.ofValue_toValue (hauth d hd) (hitems d hd))
  have hnone := Fields.optional_present (α := NonEmptyVec (MaybeTagged CoseSign1)) (a := none)
    hnodup (List.mem_cons_of_mem _ (List.mem_cons_of_mem _ List.mem_cons_self)) (.inl ⟨rfl, rfl⟩)
  have hnone' := Fields.optional_present (α := Tag24 DeviceRequestInfo) (a := none) hnodup
    (List.mem_cons_of_mem _ (List.mem_cons_of_mem _ (List.mem_cons_of_mem _ List.mem_cons_self)))
    (.inl ⟨rfl, rfl⟩)
  show (Fields.ofValue _ _ >>= _) = _
  rw [Fields.ofValue_present, ok_bind, hversion, ok_bind, hdocs, ok_bind, hnone, ok_bind, hnone',
    ok_bind]

end

theorem plain (r : DeviceRequest) (n : ℕ) :
    (Value.map ((BTreeMap.present r.fields).map fun e => (.text e.1, e.2))).Plain (n + 4) := by
  apply plain_present
  intro e he v hv
  simp only [fields, List.mem_cons, List.not_mem_nil, or_false] at he
  rcases he with rfl | rfl | rfl | rfl
  · cases hv
    exact Value.plain_text _ _
  · cases hv
    rw [Value.plain_array]
    intro v hv
    obtain ⟨d, -, rfl⟩ := List.mem_map.mp hv
    exact d.plain n
  · cases hv
  · cases hv

end DeviceRequest

end Isomdl
