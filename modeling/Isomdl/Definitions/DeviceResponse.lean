import Isomdl.Definitions.IssuerSigned

/-!
# Device responses (`definitions/device_signed.rs`, `definitions/device_response.rs`)

What a device returns: for every document the issuer-signed items and the device's signature or
tag, and the documents it could not return.
-/

namespace Isomdl

open Cbor

/-! ## `device_signed.rs` -/

abbrev DeviceSignedItems := NonEmptyMap String Value
abbrev DeviceNamespaces := BTreeMap String DeviceSignedItems
abbrev DeviceNamespacesBytes := Tag24 DeviceNamespaces

inductive DeviceAuth where
  | deviceSignature (c : MaybeTagged CoseSign1)
  | deviceMac (c : MaybeTagged CoseMac0)

inductive DeviceAuthType where
  | Sign1
  | Mac0
  deriving DecidableEq, Repr

structure DeviceSigned where
  namespaces : DeviceNamespacesBytes
  deviceAuth : DeviceAuth

/-- `DeviceAuthentication<S>` -/
structure DeviceAuthentication (S : Type) where
  transcript : S
  docType : String
  namespacesBytes : DeviceNamespacesBytes

section
variable [Ciborium] [Coset]

instance : Serialize DeviceAuth where
  toValue
    | .deviceSignature c => structValue [("deviceSignature", some (toValue c))]
    | .deviceMac c => structValue [("deviceMac", some (toValue c))]

/-- an enum with its variant's name as the one key -/
instance : Deserialize DeviceAuth where
  ofValue v :=
    match v.untagged with
    | .map [(k, v)] =>
      if isField "deviceSignature" k then .deviceSignature <$> ofValue v
      else if isField "deviceMac" k then .deviceMac <$> ofValue v
      else .error "unknown variant, expected `deviceSignature` or `deviceMac`"
    | _ => .error "invalid type: expected enum"

instance : Serialize DeviceSigned where
  toValue d := structValue
    [("nameSpaces", some (toValue d.namespaces)), ("deviceAuth", some (toValue d.deviceAuth))]

instance : Deserialize DeviceSigned where
  ofValue v := do
    let fields ← Fields.ofValue "DeviceSigned" v
    let namespaces ← fields.required "nameSpaces" DeviceNamespacesBytes
    let deviceAuth ← fields.required "deviceAuth" DeviceAuth
    .ok { namespaces, deviceAuth }

instance {S : Type} [Serialize S] : Serialize (DeviceAuthentication S) where
  toValue d := do
    let transcript ← toValue d.transcript
    let namespaces ← toValue d.namespacesBytes
    .ok (.array [.text "DeviceAuthentication", transcript, .text d.docType, namespaces])

end

/-! ## `device_response.rs` -/

abbrev I128 := {i : Int // -(2 ^ 127) ≤ i ∧ i < 2 ^ 127}

inductive DocumentErrorCode where
  | DataNotReturned
  | ApplicationSpecific (i : I128)
  deriving DecidableEq

def DocumentErrorCode.toI128 : DocumentErrorCode → I128
  | .DataNotReturned => ⟨0, by decide⟩
  | .ApplicationSpecific i => i

def DocumentErrorCode.tryFrom (n : I128) : Except String DocumentErrorCode :=
  if n.1 = 0 then .ok .DataNotReturned
  else if n.1 < 0 then .ok (.ApplicationSpecific n)
  else .error ("unsupported or RFU error code used: " ++ toString n.1)

instance : Serialize DocumentErrorCode := ⟨fun c => .ok (ofI128 c.toI128.1)⟩

instance : Deserialize DocumentErrorCode where
  ofValue v :=
    match v.integer? with
    | some i =>
      if h : -(2 ^ 127) ≤ i ∧ i < 2 ^ 127 then DocumentErrorCode.tryFrom ⟨i, h⟩
      else .error "integer out of range"
    | none => .error "invalid type: expected integer"

abbrev DocumentError := BTreeMap String DocumentErrorCode
abbrev DocumentErrors := NonEmptyVec DocumentError

/-- `Errors`: error codes by namespace and element identifier -/
abbrev NamespaceErrors := NonEmptyMap String (NonEmptyMap String DocumentErrorCode)

namespace DeviceResponse

inductive Status where
  | OK
  | GeneralError
  | CborDecodingError
  | CborValidationError
  deriving DecidableEq, Repr

def Status.toUInt64 : Status → UInt64
  | .OK => 0
  | .GeneralError => 10
  | .CborDecodingError => 11
  | .CborValidationError => 12

def Status.tryFrom (n : UInt64) : Except String Status :=
  if n = 0 then .ok .OK
  else if n = 10 then .ok .GeneralError
  else if n = 11 then .ok .CborDecodingError
  else if n = 12 then .ok .CborValidationError
  else .error ("unrecognised error code: " ++ toString n.toNat)

instance : Serialize Status := ⟨fun s => toValue s.toUInt64⟩

instance : Deserialize Status := ⟨fun v => ofValue v >>= Status.tryFrom⟩

structure Document where
  docType : String
  issuerSigned : IssuerSigned
  deviceSigned : DeviceSigned
  errors : Option NamespaceErrors

def VERSION : String := "1.0"

end DeviceResponse

structure DeviceResponse where
  version : String
  documents : Option (NonEmptyVec DeviceResponse.Document)
  documentErrors : Option DocumentErrors
  status : DeviceResponse.Status

/-- the documents of a response -/
def DeviceResponse.documentList (r : DeviceResponse) : List DeviceResponse.Document :=
  (r.documents.map NonEmptyVec.toList).getD []

section
variable [Ciborium] [Coset]

instance : Serialize DeviceResponse.Document where
  toValue d := structValue
    [("docType", some (toValue d.docType)), ("issuerSigned", some (toValue d.issuerSigned)),
     ("deviceSigned", some (toValue d.deviceSigned)), ("errors", d.errors.map toValue)]

instance : Deserialize DeviceResponse.Document where
  ofValue v := do
    let fields ← Fields.ofValue "Document" v
    let docType ← fields.required "docType" String
    let issuerSigned ← fields.required "issuerSigned" IssuerSigned
    let deviceSigned ← fields.required "deviceSigned" DeviceSigned
    let errors ← fields.optional "errors" NamespaceErrors
    .ok { docType, issuerSigned, deviceSigned, errors }

instance : Serialize DeviceResponse where
  toValue r := structValue
    [("version", some (toValue r.version)), ("documents", r.documents.map toValue),
     ("documentErrors", r.documentErrors.map toValue), ("status", some (toValue r.status))]

instance : Deserialize DeviceResponse where
  ofValue v := do
    let fields ← Fields.ofValue "DeviceResponse" v
    let version ← fields.required "version" String
    let documents ← fields.optional "documents" (NonEmptyVec DeviceResponse.Document)
    let documentErrors ← fields.optional "documentErrors" DocumentErrors
    let status ← fields.required "status" DeviceResponse.Status
    .ok { version, documents, documentErrors, status }

end

end Isomdl
