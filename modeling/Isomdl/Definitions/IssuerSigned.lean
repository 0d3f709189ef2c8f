import Isomdl.Definitions.Mso

/-!
# Issuer-signed items (`definitions/issuer_signed.rs`)
-/

namespace Isomdl

open Cbor

structure IssuerSignedItem where
  digestId : DigestId
  random : ByteStr
  elementIdentifier : String
  elementValue : Value
  deriving DecidableEq

instance : Serialize IssuerSignedItem where
  toValue i := structValue
    [("digestID", some (toValue i.digestId)), ("random", some (toValue i.random)),
     ("elementIdentifier", some (toValue i.elementIdentifier)),
     ("elementValue", some (toValue i.elementValue))]

instance : Deserialize IssuerSignedItem where
  ofValue v := do
    let fields ← Fields.ofValue "IssuerSignedItem" v
    let digestId ← fields.required "digestID" DigestId
    let random ← fields.required "random" ByteStr
    let elementIdentifier ← fields.required "elementIdentifier" String
    let elementValue ← fields.required "elementValue" Value
    .ok { digestId, random, elementIdentifier, elementValue }

abbrev IssuerSignedItemBytes := Tag24 IssuerSignedItem

abbrev IssuerNamespaces := NonEmptyMap String (NonEmptyVec IssuerSignedItemBytes)

structure IssuerSigned where
  namespaces : Option IssuerNamespaces
  issuerAuth : MaybeTagged CoseSign1

section
variable [Ciborium] [Coset]

instance : Serialize IssuerSigned where
  toValue i := structValue
    [("nameSpaces", i.namespaces.map toValue), ("issuerAuth", some (toValue i.issuerAuth))]

/-- `deserialize_optional_issuer_namespaces`: an empty map is no map -/
def deserializeOptionalIssuerNamespaces (fields : Fields) (name : String) :
    Except String (Option IssuerNamespaces) := do
  match ← fields.optional name (BTreeMap String (List IssuerSignedItemBytes)) with
  | none => .ok none
  | some namespaces =>
    if namespaces.isEmpty then .ok none
    else do
      let entries ← namespaces.toList.mapM fun (name, items) =>
        match NonEmptyVec.tryFrom items with
        | some items => .ok (name, items)
        | none => .error "expected a non-empty array"
      match NonEmptyMap.tryFrom (Std.ExtTreeMap.ofList entries compare) with
      | some namespaces => .ok (some namespaces)
      | none => .error "cannot construct a non-empty vec from an empty vec"

instance : Deserialize IssuerSigned where
  ofValue v := do
    let fields ← Fields.ofValue "IssuerSigned" v
    let namespaces ← deserializeOptionalIssuerNamespaces fields "nameSpaces"
    let issuerAuth ← fields.required "issuerAuth" (MaybeTagged CoseSign1)
    .ok { namespaces, issuerAuth }

end

end Isomdl
