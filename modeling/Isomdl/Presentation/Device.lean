import Isomdl.Presentation.Authentication

/-!
# The device (`presentation/device.rs`)

A device session decrypts requests, authenticates their reader, prepares a response, collects
its signatures and hands out the encrypted response.  `State` is its state machine: a response is
prepared, signed document by document, encrypted, and retrieved.

A call that panics returns `none`.
-/

namespace Isomdl

open Cbor

namespace Device

/-! ## documents -/

structure Document where
  id : Uuid
  issuerAuth : MaybeTagged CoseSign1
  mso : Mso
  namespaces : NonEmptyMap String (NonEmptyMap String IssuerSignedItemBytes)

abbrev Documents := NonEmptyMap String Document

inductive PreparedCose where
  | Sign1 (inner : PreparedCoseSign1)
  | Mac0 (inner : PreparedCoseMac0)

def PreparedCose.signaturePayload : PreparedCose → Bytes
  | .Sign1 inner => inner.signaturePayload
  | .Mac0 inner => inner.tagPayload

structure PreparedDocument where
  id : Uuid
  docType : String
  issuerSigned : IssuerSigned
  deviceNamespaces : DeviceNamespacesBytes
  preparedCose : PreparedCose
  errors : Option NamespaceErrors

structure PreparedDeviceResponse where
  preparedDocuments : List PreparedDocument
  signedDocuments : List DeviceResponse.Document
  documentErrors : Option DocumentErrors
  status : DeviceResponse.Status

/-! ## preparing a response -/

/-- `RequestedItems` -/
abbrev RequestedItems := List ItemsRequest

/-- `PermittedItems` -/
abbrev PermittedItems := BTreeMap String (BTreeMap String (List String))

/-- `filter_permitted` -/
def filterPermitted (request : RequestedItems) (permitted : PermittedItems) : PermittedItems :=
  Std.ExtTreeMap.ofList (permitted.toList.filterMap fun (docType, namespaces) =>
    (request.find? fun item => item.docType = docType).map fun item =>
      (docType, Std.ExtTreeMap.ofList (namespaces.toList.filterMap fun (ns, elems) =>
        (item.namespaces.toMap[ns]?).map fun reqElems =>
          (ns, elems.filter fun elem => elem ∈ reqElems.toMap)) compare)) compare

/-- the two maps that `prepare_response` fills for a document -/
structure Disclosure where
  issuerNamespaces : BTreeMap String (NonEmptyVec IssuerSignedItemBytes)
  errors : BTreeMap String (NonEmptyMap String DocumentErrorCode)

namespace Disclosure

def empty : Disclosure := ⟨∅, ∅⟩

def addItem (d : Disclosure) (ns : String) (item : IssuerSignedItemBytes) : Disclosure :=
  { d with
    issuerNamespaces := d.issuerNamespaces.insert ns
      (match d.issuerNamespaces[ns]? with
      | some returnedItems => returnedItems.push item
      | none => NonEmptyVec.new item) }

def addError (d : Disclosure) (ns elementIdentifier : String) : Disclosure :=
  { d with
    errors := d.errors.insert ns
      (match d.errors[ns]? with
      | some returnedErrors => returnedErrors.insert elementIdentifier .DataNotReturned
      | none => NonEmptyMap.new elementIdentifier .DataNotReturned) }

/-- one turn of the inner loop -/
def addElement (document : Document) (ns : String) (d : Disclosure) (elementIdentifier : String) :
    Disclosure :=
  match (document.namespaces.toMap[ns]?).bind fun issuerItems =>
      issuerItems.toMap[elementIdentifier]? with
  | some item => d.addItem ns item
  | none => d.addError ns elementIdentifier

/-- the loops over the namespaces and their elements -/
def ofNamespaces (document : Document) (namespaces : BTreeMap String (List String)) : Disclosure :=
  namespaces.toList.foldl (fun d entry => entry.2.foldl (addElement document entry.1) d) empty

end Disclosure

section
variable [Ciborium] [Coset] {S : Type} [Serialize S]

/-- the payload and its structure, for the authentication type of the device -/
def prepareCose (deviceAuthType : DeviceAuthType) (signatureAlgorithm : Algorithm)
    (deviceAuthBytes : Bytes) : Option PreparedCose :=
  let header : ProtectedHeader := ⟨none, Header.ofAlgorithm signatureAlgorithm⟩
  match deviceAuthType with
  | .Sign1 => (PreparedCoseSign1.new ⟨header, Header.empty, none, []⟩ (some deviceAuthBytes) none
      false).toOption.map .Sign1
  | .Mac0 => (PreparedCoseMac0.new ⟨header, Header.empty, none, []⟩ (some deviceAuthBytes) none
      false).toOption.map .Mac0

/-- the body of the loop of `DeviceSession::prepare_response`, for a session whose transcript is an
`S`; `none` where the source pushes a
`DataNotReturned` error for the document type and continues -/
def prepareDocument (documents : Documents) (sessionTranscript : S)
    (deviceAuthType : DeviceAuthType) (docType : String)
    (namespaces : BTreeMap String (List String)) : Option PreparedDocument := do
  let document ← documents.toMap[docType]?
  let signatureAlgorithm ← document.mso.deviceKeyInfo.deviceKey.signatureAlgorithm
  let disclosure := Disclosure.ofNamespaces document namespaces
  let deviceNamespaces ← (Tag24.new (∅ : DeviceNamespaces)).toOption
  let deviceAuth : DeviceAuthentication S := ⟨sessionTranscript, docType, deviceNamespaces⟩
  let deviceAuth ← (Tag24.new deviceAuth).toOption
  let deviceAuthBytes ← (toVec deviceAuth).toOption
  let preparedCose ← prepareCose deviceAuthType signatureAlgorithm deviceAuthBytes
  some
    { id := document.id
      docType
      issuerSigned :=
        { namespaces := NonEmptyMap.tryFrom disclosure.issuerNamespaces
          issuerAuth := document.issuerAuth }
      deviceNamespaces, preparedCose
      errors := NonEmptyMap.tryFrom disclosure.errors }

def dataNotReturned (docType : String) : DocumentError :=
  (∅ : DocumentError).insert docType .DataNotReturned

/-- the loop of `DeviceSession::prepare_response` -/
def prepareDocuments (documents : Documents) (sessionTranscript : S)
    (deviceAuthType : DeviceAuthType) :
    List (String × BTreeMap String (List String)) → List PreparedDocument × List DocumentError
  | [] => ([], [])
  | (docType, namespaces) :: entries =>
    let rest := prepareDocuments documents sessionTranscript deviceAuthType entries
    match prepareDocument documents sessionTranscript deviceAuthType docType namespaces with
    | some document => (document :: rest.1, rest.2)
    | none => (rest.1, dataNotReturned docType :: rest.2)

/-- `DeviceSession::prepare_response` -/
def sessionPrepareResponse (documents : Documents) (sessionTranscript : S)
    (deviceAuthType : DeviceAuthType) (requests : RequestedItems) (permitted : PermittedItems) :
    PreparedDeviceResponse :=
  let prepared := prepareDocuments documents sessionTranscript deviceAuthType
    (filterPermitted requests permitted).toList
  { preparedDocuments := prepared.1
    signedDocuments := []
    documentErrors := NonEmptyVec.tryFrom prepared.2
    status := .OK }

end

/-! ## signing -/

def PreparedDocument.finalize (d : PreparedDocument) (signature : Bytes) :
    DeviceResponse.Document where
  docType := d.docType
  issuerSigned := d.issuerSigned
  deviceSigned :=
    { namespaces := d.deviceNamespaces
      deviceAuth :=
        match d.preparedCose with
        | .Sign1 inner => .deviceSignature (inner.finalize signature)
        | .Mac0 inner => .deviceMac (inner.finalize signature) }
  errors := d.errors

namespace PreparedDeviceResponse

def empty (status : DeviceResponse.Status) : PreparedDeviceResponse := ⟨[], [], none, status⟩

def isComplete (p : PreparedDeviceResponse) : Bool := p.preparedDocuments.isEmpty

def getNextSignaturePayload (p : PreparedDeviceResponse) : Option (Uuid × Bytes) :=
  p.preparedDocuments.getLast?.map fun doc => (doc.id, doc.preparedCose.signaturePayload)

def submitNextSignature (p : PreparedDeviceResponse) (signature : Bytes) :
    PreparedDeviceResponse :=
  match p.preparedDocuments.getLast? with
  | none => p
  | some doc =>
    { p with
      preparedDocuments := p.preparedDocuments.dropLast
      signedDocuments := p.signedDocuments ++ [doc.finalize signature] }

def finalizeResponse (p : PreparedDeviceResponse) : DeviceResponse :=
  if p.isComplete then
    { version := DeviceResponse.VERSION
      documents := NonEmptyVec.tryFrom p.signedDocuments
      documentErrors := p.documentErrors
      status := p.status }
  else
    { version := DeviceResponse.VERSION
      documents := none
      documentErrors := none
      status := .GeneralError }

end PreparedDeviceResponse

/-! ## the session -/

inductive State where
  | AwaitingRequest
  | Signing (p : PreparedDeviceResponse)
  | ReadyToRespond (r : Bytes)

structure SessionManager where
  documents : Documents
  sessionTranscript : SessionTranscript180135
  skDevice : SessionKey
  deviceMessageCounter : UInt32
  skReader : SessionKey
  readerMessageCounter : UInt32
  state : State
  trustedVerifiers : TrustAnchorRegistry
  deviceAuthType : DeviceAuthType

/-- `ReaderAuthOutcome` -/
structure ReaderAuthOutcome where
  commonName : Option String
  errors : List String
  deriving DecidableEq, Repr

/-- `reader::ReaderAuthentication` -/
structure ReaderAuthentication where
  context : String
  sessionTranscript : SessionTranscript180135
  itemsRequest : ItemsRequestBytes

instance [Ciborium] : Serialize ReaderAuthentication where
  toValue r := do
    let transcript ← toValue r.sessionTranscript
    let itemsRequest ← toValue r.itemsRequest
    .ok (.array [.text r.context, transcript, itemsRequest])

/-- the x5chain of an unprotected header: the first parameter with its label -/
def x5chainParameter (header : Header) : Option Value :=
  (header.rest.find? fun e => e.1 = .int X5CHAIN_COSE_HEADER_LABEL).map Prod.snd

section
variable [Ciborium] [Coset] [X509Cert] [P256] [Sha2] [Clock]

/-- the detached payload of a reader signature -/
def readerAuthenticationPayload (sessionTranscript : SessionTranscript180135)
    (itemsRequest : ItemsRequestBytes) : Except String Bytes := do
  let detachedPayload ← (Tag24.new
    (⟨"ReaderAuthentication", sessionTranscript, itemsRequest⟩ : ReaderAuthentication)).mapError
      fun e => "Processing: failed to construct reader auth payload: " ++ e.display
  (toVec detachedPayload).mapError fun e =>
    "Processing: failed to encode reader auth payload: " ++ e.display

/-- `reader_authentication` from its x5chain on -/
def readerAuthenticationWith (sm : SessionManager) (itemsRequest : ItemsRequestBytes)
    (readerAuth : MaybeTagged CoseSign1) (x5chain : X5Chain) : ReaderAuthOutcome :=
  let commonName := some x5chain.endEntityCommonName
  let errors := ValidationRuleset.MdlReaderOneStep.validate x5chain sm.trustedVerifiers
  match x5chain.endEntityPublicKeyWithOid Oid.SECP_256_R_1 with
  | .error e =>
    ⟨commonName, errors ++ ["Processing: reader public key cannot be decoded: " ++ e]⟩
  | .ok key =>
    match readerAuthenticationPayload sm.sessionTranscript itemsRequest with
    | .error e => ⟨commonName, errors ++ [e]⟩
    | .ok detachedPayload =>
      match (verify readerAuth (p256Verifier key) (some detachedPayload) none).intoResult with
      | .ok () => ⟨commonName, errors⟩
      | .error e =>
        ⟨commonName, errors ++ ["Verification: failed to verify reader auth signature: " ++ e]⟩

/-- `reader_authentication` -/
def readerAuthentication (sm : SessionManager) (docRequest : DocRequest) : ReaderAuthOutcome :=
  match docRequest.readerAuth with
  | none => ⟨none, ["Processing: request does not contain reader auth"]⟩
  | some readerAuth =>
    match x5chainParameter readerAuth.inner.unprotected with
    | none => ⟨none, ["Processing: reader auth does not contain x5chain"]⟩
    | some x5chainCbor =>
      match X5Chain.fromCbor x5chainCbor with
      | .error e => ⟨none, ["Processing: x5chain cannot be decoded: " ++ e]⟩
      | .ok x5chain => readerAuthenticationWith sm docRequest.itemsRequest readerAuth x5chain

/-- `parse_request` -/
def parseRequest (request : Bytes) : Except PreparedDeviceResponse DeviceRequest :=
  match fromSlice Value request with
  | .error _ => .error (.empty .CborDecodingError)
  | .ok value =>
    match fromValue DeviceRequest value with
    | .error _ => .error (.empty .CborValidationError)
    | .ok request => .ok request

/-- `validate_request` -/
def validateRequest (sm : SessionManager) (request : DeviceRequest) :
    RequestAuthenticationOutcome :=
  let outcome := readerAuthentication sm request.docRequests.first
  { itemsRequest := request.docRequests.toList.map (·.itemsRequest.inner)
    commonName := outcome.commonName
    readerAuthentication := if outcome.errors.isEmpty then .Valid else .Invalid
    errors :=
      if request.version ≠ DeviceRequest.VERSION then
        (∅ : AuthenticationErrors).insert "parsing_errors"
          (Json.strings ["unsupported DeviceRequest version"])
      else ∅ }

end

namespace SessionManager

section
variable [Ciborium] [Coset] [X509Cert] [P256] [Sha2] [Clock] [AesGcm]

/-- `prepare_response` -/
def prepareResponse (sm : SessionManager) (requests : RequestedItems) (permitted : PermittedItems) :
    SessionManager :=
  { sm with
    state := .Signing (sessionPrepareResponse sm.documents sm.sessionTranscript sm.deviceAuthType
      requests permitted) }

/-- `handle_decoded_request` -/
def handleDecodedRequest (sm : SessionManager) (request : SessionData) :
    RequestAuthenticationOutcome × SessionManager :=
  match request.data with
  | none =>
    (.error "parsing_errors" "no mdoc requests received, assume session can be terminated", sm)
  | some data =>
    match decryptReaderData sm.skReader data.bytes sm.readerMessageCounter with
    | (none, count) =>
      (.error "decryption_errors" "unable to decrypt request: aead::Error",
        { sm with readerMessageCounter := count })
    | (some decryptedRequest, count) =>
      let sm := { sm with readerMessageCounter := count }
      match parseRequest decryptedRequest with
      | .error e => (.default, { sm with state := .Signing e })
      | .ok request => (validateRequest sm request, sm)

/-- `handle_request` -/
def handleRequest (sm : SessionManager) (request : Bytes) :
    RequestAuthenticationOutcome × SessionManager :=
  match fromSlice SessionData request with
  | .error e => (.error "parsing_errors" e.display, sm)
  | .ok sessionData => sm.handleDecodedRequest sessionData

/-- `get_next_signature_payload` -/
def getNextSignaturePayload (sm : SessionManager) : Option (Uuid × Bytes) :=
  match sm.state with
  | .Signing p => p.getNextSignaturePayload
  | _ => none

/-- what a call of `submit_next_signature` that does not panic leaves: its result, the session,
and the ciphertext when one was made -/
structure Submitted where
  result : Except String Unit
  sm : SessionManager
  sealing : Option Sealing

/-- the response of a completed signing, encrypted: the part of `submit_next_signature` after
`is_complete`; the session manager comes in with its state taken -/
def encryptResponse (sm : SessionManager) (response : DeviceResponse) : Option Submitted :=
  match toVec response with
  | .error e => some ⟨.error e.display, sm, none⟩
  | .ok bytes =>
    match fromSlice DeviceResponse bytes with
    | .error _ => none
    | .ok response2 =>
      match toVec response2 with
      | .error e => some ⟨.error e.display, sm, none⟩
      | .ok bytes2 =>
        if bytes ≠ bytes2 then none
        else
          match toVec response with
          | .error e => some ⟨.error e.display, sm, none⟩
          | .ok responseBytes =>
            let (sealing, count) :=
              encryptDeviceData sm.skDevice responseBytes sm.deviceMessageCounter
            let sm := { sm with deviceMessageCounter := count }
            let sessionData : SessionData :=
              match sealing with
              | some s => ⟨some ⟨s.ciphertext⟩, none⟩
              | none => ⟨none, some .SessionEncryptionError⟩
            match toVec sessionData with
            | .error e => some ⟨.error e.display, sm, sealing⟩
            | .ok encodedResponse =>
              some ⟨.ok (), { sm with state := .ReadyToRespond encodedResponse }, sealing⟩

/-- `submit_next_signature` -/
def submitNextSignature (sm : SessionManager) (signature : Bytes) : Option Submitted :=
  match sm.state with
  | .Signing p =>
    let p := p.submitNextSignature signature
    if p.isComplete then
      encryptResponse { sm with state := .AwaitingRequest } p.finalizeResponse
    else some ⟨.ok (), { sm with state := .Signing p }, none⟩
  | _ => some ⟨.ok (), sm, none⟩

/-- `response_ready` -/
def responseReady (sm : SessionManager) : Bool :=
  match sm.state with
  | .ReadyToRespond _ => true
  | _ => false

/-- `retrieve_response` -/
def retrieveResponse (sm : SessionManager) : Option Bytes × SessionManager :=
  match sm.state with
  | .ReadyToRespond r => (some r, { sm with state := .AwaitingRequest })
  | _ => (none, sm)

end

end SessionManager

end Device

end Isomdl
