import Isomdl.X509.Extensions

/-!
# Chain validation (`definitions/x509/validation/`)

Only the leaf of a chain is validated, against a trust anchor of the registry.  An outcome is the
list of its errors; the chain is valid when the list is empty.
-/

namespace Isomdl

section
variable [X509Cert] [P256] [Sha2] [Clock]

/-! ## `error.rs` -/

/-- `ErrorContext` -/
inductive ErrorContext where
  | Comparison
  | DocumentSigner
  | Iaca
  | Reader
  | ReaderCa
  deriving DecidableEq, Repr

def ErrorContext.name : ErrorContext → String
  | .Comparison => "Comparison"
  | .DocumentSigner => "DS certificate"
  | .Iaca => "IACA certificate"
  | .Reader => "Reader certificate"
  | .ReaderCa => "Reader CA certificate"

/-- `ErrorWithContext` -/
def errorWithContext (context : ErrorContext) (error : String) : String :=
  context.name ++ " error: " ++ error

/-! ## `validity.rs` -/

def checkValidityPeriod (certificate : Certificate) : List String :=
  (if certificate.notAfter < Clock.nowUtc then ["expired"] else []) ++
    (if Clock.nowUtc < certificate.notBefore then ["not yet valid"] else [])

/-! ## `names.rs` -/

/-- `name_matches`: each subject has exactly one value of the attribute, and they are equal -/
def nameMatches (nameOid : ObjectIdentifier) (this that : Certificate) : Option String :=
  let name := (X509Cert.oidName nameOid).getD "unknown"
  let missing (c : Certificate) := "'" ++ commonNameOrUnknown c ++ "' has no subject '" ++ name ++ "'"
  let multiple (c : Certificate) :=
    "'" ++ commonNameOrUnknown c ++ "' has multiple subject '" ++ name ++ "'s"
  match getRdns this nameOid, getRdns that nameOid with
  | [], _ => some (missing this)
  | _, [] => some (missing that)
  | _ :: _ :: _, _ => some (multiple that)
  | _, _ :: _ :: _ => some (multiple this)
  | [thisC], [thatC] =>
    if thisC ≠ thatC then
      some ("subject '" ++ name ++ "' does not match: " ++
        (X509Cert.attributeValueToStr thisC).getD "Unknown" ++ " != " ++
        (X509Cert.attributeValueToStr thatC).getD "Unknown")
    else none

def countryNameMatches (this that : Certificate) : Option String :=
  nameMatches Oid.COUNTRY_NAME this that

def stateOrProvinceNameMatches (this that : Certificate) : Option String :=
  nameMatches Oid.STATE_OR_PROVINCE_NAME this that

def hasRdn (certificate : Certificate) (oid : ObjectIdentifier) : Bool :=
  !(getRdns certificate oid).isEmpty

/-! ## `signature.rs` -/

def issuerSignedSubject (subject issuer : Certificate) : Bool :=
  match publicKeyWithOid issuer Oid.SECP_256_R_1 with
  | .error _ => false
  | .ok issuerPublicKey =>
    match P256.signatureFromDer subject.signature with
    | .error _ => false
    | .ok sig =>
      match subject.tbsDer with
      | .error _ => false
      | .ok tbs => (P256.verifyPrehashed issuerPublicKey (Sha2.sha256 tbs) sig).isOk

/-! ## `mod.rs` -/

inductive ValidationRuleset where
  | Mdl
  | AamvaMdl
  | MdlReaderOneStep
  deriving DecidableEq, Repr

/-- the filters of `find_trust_anchor_candidates` on one anchor -/
def isCandidate (subject : Certificate) (trustPurpose : TrustPurpose) (anchor : TrustAnchor) : Bool :=
  let candidate := anchor.certificate
  anchor.purpose = trustPurpose && candidate.subject = subject.issuer &&
    keyIdentifierCheck candidate.extensions subject.extensions &&
    issuerSignedSubject subject candidate && (checkValidityPeriod candidate).isEmpty

def findTrustAnchorCandidates (subject : Certificate) (trustAnchors : TrustAnchorRegistry)
    (trustPurpose : TrustPurpose) : List Certificate :=
  (trustAnchors.anchors.filter (isCandidate subject trustPurpose)).map (·.certificate)

/-- `mdl_validate_inner`: the errors, with the IACA certificate when one is found -/
def mdlValidateInner (x5chain : X5Chain) (trustAnchors : TrustAnchorRegistry) :
    List String × Option Certificate :=
  let documentSigner := x5chain.endEntityCertificate
  let errors := (checkValidityPeriod documentSigner).map (errorWithContext .DocumentSigner) ++
    (validateDocumentSignerCertificateExtensions documentSigner).map
      (errorWithContext .DocumentSigner)
  match (findTrustAnchorCandidates documentSigner trustAnchors .Iaca).head? with
  | none => (errors ++ [errorWithContext .Iaca "no valid trust anchor found"], none)
  | some iaca =>
    (errors ++ (countryNameMatches documentSigner iaca).toList.map (errorWithContext .Comparison) ++
      (validateIacaExtensions iaca).map (errorWithContext .Iaca), some iaca)

def mdlValidate (x5chain : X5Chain) (trustAnchors : TrustAnchorRegistry) : List String :=
  match mdlValidateInner x5chain trustAnchors with
  | (errors, none) => errors
  | (errors, some iaca) =>
    let ds := x5chain.endEntityCertificate
    if hasRdn ds Oid.STATE_OR_PROVINCE_NAME || hasRdn iaca Oid.STATE_OR_PROVINCE_NAME then
      errors ++ (stateOrProvinceNameMatches ds iaca).toList.map (errorWithContext .Comparison)
    else errors

def aamvaMdlValidate (x5chain : X5Chain) (trustAnchors : TrustAnchorRegistry) : List String :=
  match mdlValidateInner x5chain trustAnchors with
  | (errors, none) => errors
  | (errors, some iaca) =>
    errors ++ (stateOrProvinceNameMatches x5chain.endEntityCertificate iaca).toList.map
      (errorWithContext .Comparison)

def mdlReaderOneStepValidate (x5chain : X5Chain) (trustAnchors : TrustAnchorRegistry) :
    List String :=
  let reader := x5chain.endEntityCertificate
  let errors := (checkValidityPeriod reader).map (errorWithContext .Reader) ++
    (validateMdocReaderCertificateExtensions reader).map (errorWithContext .Reader)
  match findTrustAnchorCandidates reader trustAnchors .ReaderCa with
  | [] => errors ++ [errorWithContext .ReaderCa "no valid trust anchor found"]
  | _ :: _ => errors

/-- the errors of `ValidationRuleset::validate` -/
def ValidationRuleset.validate : ValidationRuleset → X5Chain → TrustAnchorRegistry → List String
  | .Mdl => mdlValidate
  | .AamvaMdl => aamvaMdlValidate
  | .MdlReaderOneStep => mdlReaderOneStepValidate

end

end Isomdl
