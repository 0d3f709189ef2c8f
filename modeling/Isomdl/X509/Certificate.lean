import Isomdl.Crypto
import Isomdl.DigestExecutor

/-!
# Certificates and certificate chains (`definitions/x509/util.rs`, `x5chain.rs`, `trust_anchor.rs`)

A `Certificate` holds the fields of an X.509 certificate that the code reads.  The `x509_cert`,
`der`, `const_oid` and `sha1` crates, which decode certificates and extensions, are the parameter
`X509Cert`.
-/

namespace Isomdl

open Cbor

/-- `const_oid::ObjectIdentifier`: its arcs -/
abbrev ObjectIdentifier := List Nat

def ObjectIdentifier.display (oid : ObjectIdentifier) : String :=
  ".".intercalate (oid.map fun n => toString n)

/-- `x509_cert::attr::AttributeValue`, a DER value with its tag -/
structure Any where
  tag : Nat
  value : Bytes
  deriving DecidableEq, Repr

structure AttributeTypeAndValue where
  oid : ObjectIdentifier
  value : Any
  deriving DecidableEq, Repr

/-- `x509_cert::name::Name` -/
abbrev Name := List (List AttributeTypeAndValue)

structure Extension where
  extnId : ObjectIdentifier
  critical : Bool
  extnValue : Bytes
  deriving DecidableEq, Repr

structure SubjectPublicKeyInfo where
  algorithm : ObjectIdentifier
  parameters : Option Any
  unusedBits : Nat
  rawBytes : Bytes
  deriving DecidableEq, Repr

structure Certificate where
  issuer : Name
  subject : Name
  /-- seconds since 1970 -/
  notBefore : Nat
  notAfter : Nat
  subjectPublicKeyInfo : SubjectPublicKeyInfo
  /-- `tbs_certificate.extensions.iter().flatten()` -/
  extensions : List Extension
  /-- `tbs_certificate.to_der()` -/
  tbsDer : Except String Bytes
  signature : Bytes

/-! ## decoded extensions -/

/-- `KeyUsages`, the flags the code names and the rest by their bit -/
inductive KeyUsages where
  | DigitalSignature
  | KeyCertSign
  | CRLSign
  | other (bit : Nat)
  deriving DecidableEq, Repr

structure BasicConstraints where
  ca : Bool
  pathLenConstraint : Option Nat
  deriving DecidableEq, Repr

inductive GeneralName where
  | Rfc822Name (s : String)
  | UniformResourceIdentifier (s : String)
  | other (tag : Nat) (value : Bytes)
  deriving DecidableEq, Repr

inductive DistributionPointName where
  | FullName (names : List GeneralName)
  | NameRelativeToCRLIssuer (value : Bytes)
  deriving DecidableEq, Repr

structure DistributionPoint where
  distributionPoint : Option DistributionPointName
  /-- set or not -/
  reasons : Bool
  crlIssuer : Bool
  deriving DecidableEq, Repr

/-- the `x509_cert`, `der`, `const_oid` and `sha1` crates -/
class X509Cert where
  fromDer : Bytes → Except String Certificate
  /-- `decode_as::<ObjectIdentifier>()` -/
  decodeOid : Any → Except String ObjectIdentifier
  /-- the string of an attribute of a string type -/
  attributeValueToStr : Any → Option String
  /-- `db::DB.by_oid` -/
  oidName : ObjectIdentifier → Option String
  subjectKeyIdentifier : Bytes → Except String Bytes
  /-- the `key_identifier` of an `AuthorityKeyIdentifier` -/
  authorityKeyIdentifier : Bytes → Except String (Option Bytes)
  /-- the flags that are set, in their order -/
  keyUsage : Bytes → Except String (List KeyUsages)
  basicConstraints : Bytes → Except String BasicConstraints
  extendedKeyUsage : Bytes → Except String (List ObjectIdentifier)
  crlDistributionPoints : Bytes → Except String (List DistributionPoint)
  issuerAltName : Bytes → Except String (List GeneralName)
  sha1 : Bytes → Bytes

/-- `OffsetDateTime::now_utc().unix_timestamp() as u64`, one reading for a validation -/
class Clock where
  nowUtc : Nat

namespace Oid

def COMMON_NAME : ObjectIdentifier := [2, 5, 4, 3]
def COUNTRY_NAME : ObjectIdentifier := [2, 5, 4, 6]
def STATE_OR_PROVINCE_NAME : ObjectIdentifier := [2, 5, 4, 8]
def ID_EC_PUBLIC_KEY : ObjectIdentifier := [1, 2, 840, 10045, 2, 1]
def SECP_256_R_1 : ObjectIdentifier := [1, 2, 840, 10045, 3, 1, 7]
def SECP_384_R_1 : ObjectIdentifier := [1, 3, 132, 0, 34]
def SECP_521_R_1 : ObjectIdentifier := [1, 3, 132, 0, 35]
def subjectKeyIdentifier : ObjectIdentifier := [2, 5, 29, 14]
def keyUsage : ObjectIdentifier := [2, 5, 29, 15]
def issuerAltName : ObjectIdentifier := [2, 5, 29, 18]
def basicConstraints : ObjectIdentifier := [2, 5, 29, 19]
def nameConstraints : ObjectIdentifier := [2, 5, 29, 30]
def crlDistributionPoints : ObjectIdentifier := [2, 5, 29, 31]
def policyMappings : ObjectIdentifier := [2, 5, 29, 33]
def authorityKeyIdentifier : ObjectIdentifier := [2, 5, 29, 35]
def policyConstraints : ObjectIdentifier := [2, 5, 29, 36]
def extendedKeyUsage : ObjectIdentifier := [2, 5, 29, 37]
def freshestCrl : ObjectIdentifier := [2, 5, 29, 46]
def inhibitAnyPolicy : ObjectIdentifier := [2, 5, 29, 54]

end Oid

/-! ## `util.rs` -/

section
variable [X509Cert] [P256] [Sha2]

/-- the SEC1 bytes of a key on the named curve: `public_key_with_oid` up to the curve's decoder -/
def publicKeyBytesWithOid (certificate : Certificate) (expectedCurveOid : ObjectIdentifier) :
    Except String Bytes :=
  let spki := certificate.subjectPublicKeyInfo
  if spki.algorithm ≠ Oid.ID_EC_PUBLIC_KEY then
    .error "certificate public key algorithm is not id-ecPublicKey"
  else
    match spki.parameters with
    | none => .error "certificate EC public key is missing named-curve parameters"
    | some parameters =>
      match X509Cert.decodeOid parameters with
      | .error _ => .error "certificate EC public key parameters are not a named-curve OID"
      | .ok curveOid =>
        if curveOid ≠ expectedCurveOid then
          .error "certificate EC public key uses an unexpected named curve"
        else if spki.unusedBits ≠ 0 then
          .error "certificate EC public key BIT STRING has unused bits"
        else .ok spki.rawBytes

/-- `public_key_with_oid::<NistP256>` -/
def publicKeyWithOid (certificate : Certificate) (expectedCurveOid : ObjectIdentifier) :
    Except String PublicKey := do
  let rawBytes ← publicKeyBytesWithOid certificate expectedCurveOid
  match P256.fromSec1Point rawBytes with
  | some key => .ok key
  | none => .error "could not parse certificate SEC1 public key"

/-- `get_rdns`: the values of an attribute in the subject -/
def getRdns (certificate : Certificate) (oid : ObjectIdentifier) : List Any :=
  (certificate.subject.flatten.filter fun attr => attr.oid = oid).map (·.value)

def commonName (certificate : Certificate) : Option String :=
  ((getRdns certificate Oid.COMMON_NAME).filterMap X509Cert.attributeValueToStr).head?

def commonNameOrUnknown (certificate : Certificate) : String :=
  (commonName certificate).getD "Unknown"

/-- `P256Verifier`, with `ecdsa::Signature<NistP256>` as its signatures -/
def p256Verifier (key : PublicKey) : Verifier Signature where
  algorithm := .ES256
  tryFrom := P256.signatureFromSlice
  verify message signature := P256.verifyPrehashed key (Sha2.sha256 message) signature

end

/-! ## `x5chain.rs` -/

/-- `X5CHAIN_COSE_HEADER_LABEL` -/
def X5CHAIN_COSE_HEADER_LABEL : Int := 0x21

structure CertificateWithDer where
  inner : Certificate
  der : Bytes

structure X5Chain where
  certs : NonEmptyVec CertificateWithDer

namespace X5Chain

section
variable [X509Cert] [P256]

def certificateFromDer (bytes : Bytes) : Except String CertificateWithDer :=
  match X509Cert.fromDer bytes with
  | .ok inner => .ok ⟨inner, bytes⟩
  | .error _ => .error "unable to parse certificate from DER encoding"

/-- `Builder::build` -/
def build (certs : List CertificateWithDer) : Except String X5Chain :=
  match NonEmptyVec.tryFrom certs with
  | some certs => .ok ⟨certs⟩
  | none => .error "at least one certificate must be given to the builder"

def fromCbor : Value → Except String X5Chain
  | .bytes bytes => do
    let cert ← certificateFromDer bytes
    build [cert]
  | .array x509s => do
    let certs ← x509s.mapM fun
      | .bytes bytes => certificateFromDer bytes
      | _ => .error "expected x509 certificate in the x5chain to be a cbor encoded bytestring"
    build certs
  | _ => .error "expected x5chain to be a cbor encoded bytestring or array"

def endEntityCertificate (chain : X5Chain) : Certificate :=
  (chain.certs.toList.head chain.certs.nonempty).inner

def endEntityPublicKeyWithOid (chain : X5Chain) (expectedCurveOid : ObjectIdentifier) :
    Except String PublicKey :=
  publicKeyWithOid chain.endEntityCertificate expectedCurveOid

def endEntityCommonName (chain : X5Chain) : String :=
  commonNameOrUnknown chain.endEntityCertificate

end

end X5Chain

/-! ## `trust_anchor.rs` -/

inductive TrustPurpose where
  | Iaca
  | ReaderCa
  deriving DecidableEq, Repr

structure TrustAnchor where
  certificate : Certificate
  purpose : TrustPurpose

structure TrustAnchorRegistry where
  anchors : List TrustAnchor

end Isomdl
