import Isomdl.Definitions.DeviceRequest
import Isomdl.Definitions.DeviceResponse
import Isomdl.Definitions.Session
import Isomdl.Definitions.Traits
import Isomdl.X509.Validation

/-!
# Authentication outcomes (`presentation/authentication/`)

What a party learns about the other: the outcome types of the two sides, and the checks of the
issuer's and the device's signatures over a document.

* `issuerAuthentication_eq_ok`   what an accepted issuer signature says.
-/

set_option linter.unusedSectionVars false

namespace Isomdl

open Cbor

/-- `json!(vec![..])` of strings -/
def Json.strings (messages : List String) : Json := .array (messages.map .string)

inductive AuthenticationStatus where
  | Unchecked
  | Invalid
  | Valid
  deriving DecidableEq, Repr

/-- `authentication::Errors` -/
abbrev AuthenticationErrors := BTreeMap String Json

structure RequestAuthenticationOutcome where
  itemsRequest : List ItemsRequest
  commonName : Option String
  readerAuthentication : AuthenticationStatus
  errors : AuthenticationErrors

def RequestAuthenticationOutcome.default : RequestAuthenticationOutcome :=
  ⟨[], none, .Unchecked, ∅⟩

/-- the default outcome with one kind of error -/
def RequestAuthenticationOutcome.error (kind message : String) : RequestAuthenticationOutcome :=
  { default with errors := default.errors.insert kind (Json.strings [message]) }

structure ResponseAuthenticationOutcome where
  response : BTreeMap String Json
  issuerAuthentication : AuthenticationStatus
  deviceAuthentication : AuthenticationStatus
  errors : AuthenticationErrors

def ResponseAuthenticationOutcome.default : ResponseAuthenticationOutcome :=
  ⟨∅, .Unchecked, .Unchecked, ∅⟩

/-- the default outcome with one kind of error -/
def ResponseAuthenticationOutcome.error (kind message : String) : ResponseAuthenticationOutcome :=
  { default with errors := default.errors.insert kind (Json.strings [message]) }

namespace Authentication

inductive Error where
  | detachedIssuerAuth
  | msoParsing
  | cborDecodingError
  | mdocAuth (e : String)
  | unsupported
  | issuerAuthentication (e : String)
  | issuerPublicKey (e : String)
  deriving DecidableEq, Repr

def Error.display : Error → String
  | .detachedIssuerAuth => "Received IssuerAuth had a detached payload."
  | .msoParsing => "Could not parse MSO."
  | .cborDecodingError => "Unexpected CBOR type for offered value"
  | .mdocAuth e => "Failed mdoc authentication: " ++ e
  | .unsupported => "Currently unsupported format"
  | .issuerAuthentication e => "issuer authentication failed: " ++ e
  | .issuerPublicKey _ => "Unable to parse issuer public key"

end Authentication

/-! ## `mdoc.rs` -/

section
variable [Ciborium] [Coset] [Rfc3339] [X509Cert] [P256] [Sha2]

/-- `issuer_authentication` -/
def issuerAuthentication (x5chain : X5Chain) (issuerSigned : IssuerSigned) :
    Except Authentication.Error Unit := do
  let signerKey ← (x5chain.endEntityPublicKeyWithOid Oid.SECP_256_R_1).mapError .issuerPublicKey
  let verificationResult := verify issuerSigned.issuerAuth (p256Verifier signerKey) none none
  verificationResult.intoResult.mapError .issuerAuthentication

/-- `verify_device_authentication_payload` -/
def verifyDeviceAuthenticationPayload (document : DeviceResponse.Document) (cborPayload : Bytes) :
    Except Authentication.Error Unit :=
  match document.issuerSigned.issuerAuth.inner.payload with
  | none => .error .detachedIssuerAuth
  | some msoBytes => do
    let mso ← (fromSlice (Tag24 Mso) msoBytes).mapError fun _ => .msoParsing
    match mso.inner.deviceKeyInfo.deviceKey with
    | .OKP _ _ => .error (.mdocAuth "Unsupported device_key type")
    | key => do
      let encodedPoint ← key.toSec1Point.mapError .mdocAuth
      match P256.fromSec1Point encodedPoint with
      | none => .error (.mdocAuth "crypto error")
      | some verifyingKey =>
        match document.deviceSigned.deviceAuth with
        | .deviceMac _ => .error .unsupported
        | .deviceSignature deviceSignature =>
          match verify deviceSignature (p256Verifier verifyingKey) (some cborPayload) none with
          | .success => .ok ()
          | .failure e => .error (.mdocAuth ("failed verifying device signature: " ++ e))
          | .error e => .error (.mdocAuth ("error verifying device signature: " ++ e.display))

/-- `device_authentication` -/
def deviceAuthentication (document : DeviceResponse.Document)
    (sessionTranscript : SessionTranscript180135) : Except Authentication.Error Unit := do
  let deviceAuthentication : DeviceAuthentication SessionTranscript180135 :=
    ⟨sessionTranscript, document.docType, document.deviceSigned.namespaces⟩
  let detachedPayload ← (Tag24.new deviceAuthentication).mapError fun _ => .cborDecodingError
  let cborPayload ← (toVec detachedPayload).mapError fun _ => .cborDecodingError
  verifyDeviceAuthenticationPayload document cborPayload

theorem issuerAuthentication_eq_ok {x5chain : X5Chain} {issuerSigned : IssuerSigned} :
    issuerAuthentication x5chain issuerSigned = .ok () ↔
      ∃ signerKey, x5chain.endEntityPublicKeyWithOid Oid.SECP_256_R_1 = .ok signerKey ∧
        verify issuerSigned.issuerAuth (p256Verifier signerKey) none none = .success := by
  unfold issuerAuthentication
  cases x5chain.endEntityPublicKeyWithOid Oid.SECP_256_R_1 with
  | error e =>
    show (Except.error _ : Except Authentication.Error Unit) = .ok () ↔ _
    simp
  | ok signerKey =>
    show (verify issuerSigned.issuerAuth (p256Verifier signerKey) none none).intoResult.mapError
      Authentication.Error.issuerAuthentication = .ok () ↔ _
    cases hv : verify issuerSigned.issuerAuth (p256Verifier signerKey) none none <;>
      simp [VerificationResult.intoResult, Except.mapError, hv]

end

end Isomdl
