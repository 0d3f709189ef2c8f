import Isomdl.X509.Certificate

/-!
# Extension validation (`definitions/x509/validation/extensions/`)

Every certificate profile is a list of validators, each for one required extension.
`validateExtensions` runs the first validator of an extension's identifier, reports unknown
critical extensions, and at the end the required extensions that were not found.
-/

namespace Isomdl

/-- the `ExtensionValidator` trait -/
structure ExtensionValidator where
  oid : ObjectIdentifier
  extName : String
  validate : Extension → List String

section
variable [X509Cert]

/-- a validator that decodes the extension and checks what it decoded -/
def decodingValidator {α : Type} (oid : ObjectIdentifier) (extName : String)
    (fromDer : Bytes → Except String α) (check : α → List String) : ExtensionValidator where
  oid := oid
  extName := extName
  validate extension :=
    match fromDer extension.extnValue with
    | .ok a => check a
    | .error e => ["failed to decode: " ++ e]

/-! ## the validators -/

/-- `SubjectKeyIdentifierValidator::from_certificate` -/
def subjectKeyIdentifierValidator (certificate : Certificate) : ExtensionValidator :=
  decodingValidator Oid.subjectKeyIdentifier "SubjectKeyIdentifier" X509Cert.subjectKeyIdentifier
    fun ski =>
      if X509Cert.sha1 certificate.subjectPublicKeyInfo.rawBytes ≠ ski then
        ["public key digest did not match the expected value"]
      else []

/-- `KeyUsageValidator` -/
def keyUsageValidator (expectedFlagset : List KeyUsages) : ExtensionValidator :=
  decodingValidator Oid.keyUsage "KeyUsage" X509Cert.keyUsage fun ku =>
    if ku ≠ expectedFlagset then ["unexpected usage: " ++ reprStr ku] else []

def documentSignerKeyUsage : List KeyUsages := [.DigitalSignature]
def mdocReaderKeyUsage : List KeyUsages := [.DigitalSignature]
def iacaKeyUsage : List KeyUsages := [.KeyCertSign, .CRLSign]

/-- `BasicConstraintsValidator` -/
def basicConstraintsValidator : ExtensionValidator :=
  decodingValidator Oid.basicConstraints "BasicConstraints" X509Cert.basicConstraints
    fun constraints =>
      if constraints.pathLenConstraint ≠ some 0 ∨ constraints.ca = false then
        ["expected to be CA:true, path_len:0, but found: " ++ reprStr constraints]
      else []

/-- `{:?}` of some object identifiers -/
def debugOids (oids : List ObjectIdentifier) : String :=
  "[" ++ ", ".intercalate (oids.map fun oid => "ObjectIdentifier(" ++ oid.display ++ ")") ++ "]"

/-- `ExtendedKeyUsageValidator` -/
def extendedKeyUsageValidator (expectedOid : ObjectIdentifier) : ExtensionValidator :=
  decodingValidator Oid.extendedKeyUsage "ExtendedKeyUsage" X509Cert.extendedKeyUsage fun eku =>
    if ¬ eku.all fun oid => oid = expectedOid then
      ["expected '" ++ expectedOid.display ++ "', found '" ++ debugOids eku ++ "'"]
    else if eku.isEmpty then ["expected '" ++ expectedOid.display ++ "', found '[]'"]
    else []

def documentSignerExtendedKeyUsageOid : ObjectIdentifier := [1, 0, 18013, 5, 1, 2]
def mdocReaderExtendedKeyUsageOid : ObjectIdentifier := [1, 0, 18013, 5, 1, 6]

def DistributionPoint.hasUri (point : DistributionPoint) : Bool :=
  match point.distributionPoint with
  | some (.FullName names) => names.any fun
    | .UniformResourceIdentifier _ => true
    | _ => false
  | _ => false

/-- `CrlDistributionPointsValidator` -/
def crlDistributionPointsValidator : ExtensionValidator :=
  decodingValidator Oid.crlDistributionPoints "CrlDistributionPoints"
    X509Cert.crlDistributionPoints fun points =>
      if points.isEmpty then ["expected one or more distribution points"]
      else points.flatMap fun point =>
        (if point.crlIssuer then
          ["crl_issuer cannot be set, but is set for: " ++ reprStr point] else []) ++
        (if point.reasons then
          ["reasons cannot be set, but is set for: " ++ reprStr point] else []) ++
        (if point.hasUri then [] else ["point is invalid: " ++ reprStr point])

/-- `IssuerAlternativeNameValidator` -/
def issuerAlternativeNameValidator : ExtensionValidator :=
  decodingValidator Oid.issuerAltName "IssuerAlternativeName" X509Cert.issuerAltName fun ian =>
    if ian.all fun
      | .Rfc822Name _ => true
      | .UniformResourceIdentifier _ => true
      | _ => false
    then [] else ["invalid type in found in general names: " ++ reprStr ian]

/-! ## running the validators -/

structure RequiredExtension where
  found : Bool
  validator : ExtensionValidator

/-- one turn of the loop of `validate_extensions` -/
def validateExtension (ext : Extension) :
    List RequiredExtension → List RequiredExtension × List String
  | [] =>
    ([], if ext.critical then
      ["contains unknown critical extension: " ++ ObjectIdentifier.display ext.extnId] else [])
  | v :: validators =>
    if v.validator.oid = ext.extnId then
      ({ v with found := true } :: validators,
        (v.validator.validate ext).map fun e => v.validator.extName ++ ": " ++ e)
    else
      let rest := validateExtension ext validators
      (v :: rest.1, rest.2)

/-- the loop over the extensions, with the validators and the errors so far -/
def validateExtensionsFrom : List Extension → List RequiredExtension → List String →
    List RequiredExtension × List String
  | [], validators, errors => (validators, errors)
  | ext :: extensions, validators, errors =>
    let turn := validateExtension ext validators
    validateExtensionsFrom extensions turn.1 (errors ++ turn.2)

/-- `validate_extensions` -/
def validateExtensions (validators : List ExtensionValidator) (extensions : List Extension) :
    List String :=
  let last := validateExtensionsFrom extensions (validators.map (⟨false, ·⟩)) []
  last.2 ++ (last.1.filter fun v => !v.found).map fun v =>
    v.validator.extName ++ ": required extension not found"

/-- `check_for_disallowed_x509_extensions` -/
def checkForDisallowedX509Extensions (extensions : List Extension) : List String :=
  (extensions.map (·.extnId)).filterMap fun id =>
    if id ∈ [Oid.policyMappings, Oid.nameConstraints, Oid.policyConstraints,
        Oid.inhibitAnyPolicy, Oid.freshestCrl] then
      some ("extension is not allowed: " ++
        (X509Cert.oidName id).getD (ObjectIdentifier.display id))
    else none

/-! ## the profiles -/

/-- the extensions of a profile, validated: the three `validate_*_extensions` functions -/
def validateProfile (validators : Certificate → List ExtensionValidator)
    (certificate : Certificate) : List String :=
  checkForDisallowedX509Extensions certificate.extensions ++
    validateExtensions (validators certificate) certificate.extensions

def validateIacaExtensions : Certificate → List String :=
  validateProfile fun certificate =>
    [subjectKeyIdentifierValidator certificate, keyUsageValidator iacaKeyUsage,
     basicConstraintsValidator, crlDistributionPointsValidator, issuerAlternativeNameValidator]

def validateDocumentSignerCertificateExtensions : Certificate → List String :=
  validateProfile fun certificate =>
    [subjectKeyIdentifierValidator certificate,
     extendedKeyUsageValidator documentSignerExtendedKeyUsageOid,
     keyUsageValidator documentSignerKeyUsage, crlDistributionPointsValidator,
     issuerAlternativeNameValidator]

def validateMdocReaderCertificateExtensions : Certificate → List String :=
  validateProfile fun certificate =>
    [subjectKeyIdentifierValidator certificate,
     extendedKeyUsageValidator mdocReaderExtendedKeyUsageOid,
     keyUsageValidator mdocReaderKeyUsage, crlDistributionPointsValidator,
     issuerAlternativeNameValidator]

/-- `key_identifier_check` -/
def keyIdentifierCheck (issuerExtensions subjectExtensions : List Extension) : Bool :=
  let issuerSkis := issuerExtensions.filterMap fun ext =>
    if ext.extnId = Oid.subjectKeyIdentifier then
      (X509Cert.subjectKeyIdentifier ext.extnValue).toOption
    else none
  let keyIdentifiers := subjectExtensions.filterMap fun ext =>
    if ext.extnId = Oid.authorityKeyIdentifier then
      (X509Cert.authorityKeyIdentifier ext.extnValue).toOption.bind id
    else none
  keyIdentifiers.any fun ki => issuerSkis.any fun ski => ki = ski

end

end Isomdl
