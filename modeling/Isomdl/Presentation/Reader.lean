import Isomdl.Presentation.Authentication

/-!
# The reader (`presentation/reader.rs`, `presentation/reader_utils.rs`)

A reader session builds encrypted requests, and decrypts, authenticates and parses responses.

A call that panics returns `none`.
-/

namespace Isomdl

open Cbor

/-! ## `reader_utils.rs` -/

section
variable [Ciborium] [Coset] [Rfc3339] [X509Cert] [P256] [Sha2] [Clock]

/-- the device's part of `validate_response` -/
def validateDevice (document : DeviceResponse.Document)
    (sessionTranscript : SessionTranscript180135) (outcome : ResponseAuthenticationOutcome) :
    ResponseAuthenticationOutcome :=
  match deviceAuthentication document sessionTranscript with
  | .ok () => { outcome with deviceAuthentication := .Valid }
  | .error e =>
    { outcome with
      deviceAuthentication := .Invalid
      errors := outcome.errors.insert "device_authentication_errors" (Json.strings [e.display]) }

/-- the issuer's part of `validate_response` -/
def validateIssuer (trustAnchorRegistry : TrustAnchorRegistry) (x5chain : X5Chain)
    (document : DeviceResponse.Document) (outcome : ResponseAuthenticationOutcome) :
    ResponseAuthenticationOutcome :=
  let validationErrors := ValidationRuleset.Mdl.validate x5chain trustAnchorRegistry
  if validationErrors.isEmpty then
    match issuerAuthentication x5chain document.issuerSigned with
    | .ok () => { outcome with issuerAuthentication := .Valid }
    | .error e =>
      { outcome with
        issuerAuthentication := .Invalid
        errors := outcome.errors.insert "issuer_authentication_errors" (Json.strings [e.display]) }
  else
    { outcome with
      issuerAuthentication := .Invalid
      errors := outcome.errors.insert "certificate_errors" (Json.strings validationErrors) }

/-- `validate_response` -/
def validateResponse (sessionTranscript : SessionTranscript180135)
    (trustAnchorRegistry : TrustAnchorRegistry) (x5chain : X5Chain)
    (document : DeviceResponse.Document) (namespaces : BTreeMap String Json) :
    ResponseAuthenticationOutcome :=
  validateIssuer trustAnchorRegistry x5chain document
    (validateDevice document sessionTranscript
      { ResponseAuthenticationOutcome.default with response := namespaces })

end

namespace Reader

inductive Error where
  | deviceTransmissionError
  | documentTypeError
  | noMdlDataTransmission
  | incorrectNamespace
  | holderError
  | decryptionError
  | cborDecodingError
  | parsingError (e : String)
  | x5ChainMissing
  | x5ChainParsing (e : String)
  deriving DecidableEq, Repr

def Error.display : Error → String
  | .deviceTransmissionError => "Device did not transmit any data."
  | .documentTypeError => "Device did not transmit an mDL."
  | .noMdlDataTransmission => "the device did not transmit any mDL data."
  | .incorrectNamespace =>
    "device did not transmit any data in the org.iso.18013.5.1 namespace."
  | .holderError => "device responded with an error."
  | .decryptionError => "could not decrypt the response."
  | .cborDecodingError => "Unexpected CBOR type for offered value"
  | .parsingError e => "Unexpected data type for data element: " ++ e ++ "."
  | .x5ChainMissing => "No x5chain found for issuer authentication"
  | .x5ChainParsing e => "Failed to parse x5chain: " ++ e

def MDL_DOC_TYPE : String := "org.iso.18013.5.1.mDL"
def CORE_NAMESPACE : String := "org.iso.18013.5.1"
def AAMVA_NAMESPACE : String := "org.iso.18013.5.1.aamva"

/-! ## parsing -/

/-- insertion into a `serde_json::Map`, which keeps its keys in order -/
def insertField (k : String) (v : Json) : List (String × Json) → List (String × Json)
  | [] => [(k, v)]
  | (l, w) :: fields =>
    match compare k l with
    | .lt => (k, v) :: (l, w) :: fields
    | .eq => (k, v) :: fields
    | .gt => (l, w) :: insertField k v fields

/-- `json!` of an `i128`: `serde_json` has numbers from `i64::MIN` to `u64::MAX` -/
def jsonI128 (i : Int) : Option Json :=
  if -(2 ^ 63) ≤ i ∧ i < 2 ^ 64 then some (.number i) else none

mutual

/-- `parse_response`; `none` where `json!` panics -/
def parseResponse : Value → Option (Except Error Json)
  | .text s => some (.ok (.string s))
  | .tag _ v =>
    match v with
    | .text d => some (.ok (.string d))
    | _ => some (.error (.parsingError "found a tagged value when expecting text"))
  | .array vs =>
    match parseElements vs with
    | none => none
    | some (.error e) => some (.error e)
    | some (.ok js) => some (.ok (.array js))
  | .map kvs =>
    match parseEntries kvs [] with
    | none => none
    | some (.error e) => some (.error e)
    | some (.ok fields) => some (.ok (.object fields))
  | .bytes b => some (.ok (.array (b.map fun byte => .number byte.toNat)))
  | .bool b => some (.ok (.bool b))
  | .integer i =>
    match jsonI128 i.1 with
    | none => none
    | some j => some (.ok j)
  | _ =>
    some (.error (.parsingError "found a value when expecting anything but floats and nulls"))

def parseElements : List Value → Option (Except Error (List Json))
  | [] => some (.ok [])
  | v :: vs =>
    match parseResponse v with
    | none => none
    | some (.error e) => some (.error e)
    | some (.ok j) =>
      match parseElements vs with
      | none => none
      | some (.error e) => some (.error e)
      | some (.ok js) => some (.ok (j :: js))

/-- entries with text keys, inserted one after another -/
def parseEntries : List (Value × Value) → List (String × Json) →
    Option (Except Error (List (String × Json)))
  | [], fields => some (.ok fields)
  | (k, v) :: kvs, fields =>
    match k with
    | .text key =>
      match parseResponse v with
      | none => none
      | some (.error e) => some (.error e)
      | some (.ok j) => parseEntries kvs (insertField key j fields)
    | _ => parseEntries kvs fields

end

/-- the `for_each` over the items of a namespace: values that do not parse are left out -/
def parseItems : List IssuerSignedItemBytes → BTreeMap String Json → Option (BTreeMap String Json)
  | [], namespaceMap => some namespaceMap
  | item :: items, namespaceMap =>
    match parseResponse item.inner.elementValue with
    | none => none
    | some (.ok val) => parseItems items (namespaceMap.insert item.inner.elementIdentifier val)
    | some (.error _) => parseItems items namespaceMap

/-- `serde_json::to_value` of a map of a namespace -/
def namespaceJson (m : BTreeMap String Json) : Json := .object m.toList

/-- `get_document` -/
def getDocument (deviceResponse : DeviceResponse) : Except Error DeviceResponse.Document :=
  match deviceResponse.documents with
  | none => .error .deviceTransmissionError
  | some documents =>
    match documents.toList.find? fun doc => doc.docType = MDL_DOC_TYPE with
    | none => .error .documentTypeError
    | some document => .ok document

/-- `parse_namespaces`, of the document that `get_document` finds -/
def parseNamespaces (deviceResponse : DeviceResponse) :
    Option (Except Error (BTreeMap String Json)) :=
  match getDocument deviceResponse with
  | .error e => some (.error e)
  | .ok document =>
    match document.issuerSigned.namespaces with
    | none => some (.error .noMdlDataTransmission)
    | some namespaces =>
      match namespaces.toMap[CORE_NAMESPACE]? with
      | none => some (.error .incorrectNamespace)
      | some items =>
        match parseItems items.toList ∅ with
        | none => none
        | some core =>
          let parsed := (∅ : BTreeMap String Json).insert CORE_NAMESPACE (namespaceJson core)
          match namespaces.toMap[AAMVA_NAMESPACE]? with
          | none => some (.ok parsed)
          | some items =>
            match parseItems items.toList ∅ with
            | none => none
            | some aamva => some (.ok (parsed.insert AAMVA_NAMESPACE (namespaceJson aamva)))

section
variable [X509Cert] [P256]

/-- the x5chain of a document's issuer signature -/
def issuerX5Chain (document : DeviceResponse.Document) : Except Error X5Chain :=
  match (document.issuerSigned.issuerAuth.inner.unprotected.rest.find? fun e =>
      e.1 = .int X5CHAIN_COSE_HEADER_LABEL).map Prod.snd with
  | none => .error .x5ChainMissing
  | some value => (X5Chain.fromCbor value).mapError .x5ChainParsing

/-- `parse` -/
def parse (deviceResponse : DeviceResponse) :
    Option (Except Error (DeviceResponse.Document × X5Chain × BTreeMap String Json)) :=
  match getDocument deviceResponse with
  | .error e => some (.error e)
  | .ok document =>
    match issuerX5Chain document with
    | .error e => some (.error e)
    | .ok x5chain =>
      match parseNamespaces deviceResponse with
      | none => none
      | some (.error e) => some (.error e)
      | some (.ok parsedResponse) => some (.ok (document, x5chain, parsedResponse))

end

/-! ## the session -/

structure SessionManager where
  sessionTranscript : SessionTranscript180135
  skDevice : SessionKey
  deviceMessageCounter : UInt32
  skReader : SessionKey
  readerMessageCounter : UInt32
  trustAnchorRegistry : TrustAnchorRegistry

namespace SessionManager

section
variable [Ciborium] [Coset] [AesGcm]

/-- the request that `build_request` encrypts -/
def deviceRequest (namespaces : RequestNamespaces) : Except String DeviceRequest := do
  let itemsRequest : ItemsRequest :=
    { docType := MDL_DOC_TYPE, namespaces, requestInfo := none }
  let itemsRequest ← (Tag24.new itemsRequest).mapError Tag24.Error.display
  .ok
    { version := DeviceRequest.VERSION
      docRequests := NonEmptyVec.new { itemsRequest, readerAuth := none }
      deviceRequestInfo := none
      readerAuthAll := none }

/-- `build_request`: the ciphertext, as a sealing, and the session after the call -/
def buildRequest (sm : SessionManager) (namespaces : RequestNamespaces) :
    Except String Sealing × SessionManager :=
  match deviceRequest namespaces with
  | .error e => (.error e, sm)
  | .ok deviceRequest =>
    match toVec deviceRequest with
    | .error e => (.error e.display, sm)
    | .ok deviceRequestBytes =>
      match encryptReaderData sm.skReader deviceRequestBytes sm.readerMessageCounter with
      | (some sealing, count) => (.ok sealing, { sm with readerMessageCounter := count })
      | (none, count) =>
        (.error "unable to encrypt request: aead::Error", { sm with readerMessageCounter := count })

/-- what a call of `new_request` leaves: its result, the session, and the ciphertext when one was
made -/
structure Requested where
  result : Except String Bytes
  sm : SessionManager
  sealing : Option Sealing

/-- `new_request` -/
def newRequest (sm : SessionManager) (namespaces : RequestNamespaces) : Requested :=
  match sm.buildRequest namespaces with
  | (.error e, sm) => ⟨.error e, sm, none⟩
  | (.ok sealing, sm) =>
    let session : SessionData := ⟨some ⟨sealing.ciphertext⟩, none⟩
    ⟨(toVec session).mapError CborError.display, sm, some sealing⟩

/-- `decrypt_response` -/
def decryptResponse (sm : SessionManager) (response : Bytes) :
    Except Error DeviceResponse × SessionManager :=
  match fromSlice SessionData response with
  | .error _ => (.error .cborDecodingError, sm)
  | .ok sessionData =>
    match sessionData.data with
    | none => (.error .holderError, sm)
    | some encryptedResponse =>
      match decryptDeviceData sm.skDevice encryptedResponse.bytes sm.deviceMessageCounter with
      | (none, count) => (.error .decryptionError, { sm with deviceMessageCounter := count })
      | (some decryptedResponse, count) =>
        ((fromSlice DeviceResponse decryptedResponse).mapError fun _ => .cborDecodingError,
          { sm with deviceMessageCounter := count })

variable [Rfc3339] [X509Cert] [P256] [Sha2] [Clock]

/-- `handle_response` -/
def handleResponse (sm : SessionManager) (response : Bytes) :
    Option (ResponseAuthenticationOutcome × SessionManager) :=
  match sm.decryptResponse response with
  | (.error e, sm) => some (.error "decryption_errors" e.display, sm)
  | (.ok deviceResponse, sm) =>
    match parse deviceResponse with
    | none => none
    | some (.error e) => some (.error "parsing_errors" e.display, sm)
    | some (.ok (document, x5chain, namespaces)) =>
      some (validateResponse sm.sessionTranscript sm.trustAnchorRegistry x5chain document
        namespaces, sm)

end

end SessionManager

end Reader

end Isomdl
