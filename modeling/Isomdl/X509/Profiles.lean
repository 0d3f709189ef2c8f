import Isomdl.X509.Extensions
import Isomdl.Reference.X509

/-!
# What the extension profiles accept

The loop of `validateExtensions` marks the validators whose identifier it has met and collects
the errors of each turn.  With distinct identifiers the marks are those of `markFound`, and the
errors are empty exactly when every turn passes, so the verdict says `ExtensionsAccepted`, which
only depends on which extensions there are.
-/

namespace Isomdl

/-- what a certificate profile asks of the extensions -/
structure ExtensionsAccepted (validators : List ExtensionValidator)
    (extensions : List Extension) : Prop where
  required : ∀ v ∈ validators, ∃ ext ∈ extensions, ext.extnId = v.oid
  valid : ∀ v ∈ validators, ∀ ext ∈ extensions, ext.extnId = v.oid → v.validate ext = []
  unknown : ∀ ext ∈ extensions, (∀ v ∈ validators, v.oid ≠ ext.extnId) → ext.critical = false

theorem ExtensionsAccepted.of_mem_iff {validators : List ExtensionValidator}
    {extensions extensions' : List Extension} (h : ∀ ext, ext ∈ extensions' ↔ ext ∈ extensions)
    (ha : ExtensionsAccepted validators extensions) :
    ExtensionsAccepted validators extensions' where
  required v hv := by
    obtain ⟨ext, hext, hid⟩ := ha.required v hv
    exact ⟨ext, (h ext).mpr hext, hid⟩
  valid v hv ext hext := ha.valid v hv ext ((h ext).mp hext)
  unknown ext hext := ha.unknown ext ((h ext).mp hext)

/-! ## one turn of the loop -/

/-- an extension passes its turn: its validator accepts it, or it has none and is not critical -/
def ExtensionPasses (validators : List ExtensionValidator) (ext : Extension) : Prop :=
  (∀ v ∈ validators, ext.extnId = v.oid → v.validate ext = []) ∧
    ((∀ v ∈ validators, v.oid ≠ ext.extnId) → ext.critical = false)

theorem extensionPasses_head {v : ExtensionValidator} {validators : List ExtensionValidator}
    {ext : Extension} (hid : v.oid = ext.extnId) (hnd : v.oid ∉ validators.map (·.oid)) :
    ExtensionPasses (v :: validators) ext ↔ v.validate ext = [] := by
  constructor
  · intro h
    exact h.1 v List.mem_cons_self hid.symm
  · intro h
    refine ⟨fun w hw hwid => ?_, fun hall => absurd hid (hall v List.mem_cons_self)⟩
    rcases List.mem_cons.mp hw with rfl | hw'
    · exact h
    · have e : w.oid = v.oid := by rw [hid, hwid]
      exact absurd (List.mem_map.mpr ⟨w, hw', e⟩) hnd

theorem extensionPasses_cons {v : ExtensionValidator} {validators : List ExtensionValidator}
    {ext : Extension} (hid : v.oid ≠ ext.extnId) :
    ExtensionPasses (v :: validators) ext ↔ ExtensionPasses validators ext := by
  unfold ExtensionPasses
  rw [List.forall_mem_cons, List.forall_mem_cons]
  constructor
  · rintro ⟨⟨-, hv⟩, hu⟩
    exact ⟨hv, fun h => hu ⟨hid, h⟩⟩
  · rintro ⟨hv, hu⟩
    exact ⟨⟨fun h => absurd h.symm hid, hv⟩, fun h => hu h.2⟩

/-- the mark that one extension leaves -/
def RequiredExtension.markFound (ext : Extension) (v : RequiredExtension) : RequiredExtension :=
  { v with found := v.found || v.validator.oid = ext.extnId }

theorem RequiredExtension.markFound_of_ne {ext : Extension} {v : RequiredExtension}
    (h : v.validator.oid ≠ ext.extnId) : v.markFound ext = v := by
  simp only [markFound, h, decide_false, Bool.or_false]

theorem validateExtension_fst (ext : Extension) (validators : List RequiredExtension)
    (hnd : (validators.map (·.validator.oid)).Nodup) :
    (validateExtension ext validators).1 = validators.map (·.markFound ext) := by
  induction validators with
  | nil => rfl
  | cons v validators ih =>
    obtain ⟨hv, hnd'⟩ := List.nodup_cons.mp hnd
    unfold validateExtension
    by_cases hid : v.validator.oid = ext.extnId
    · have hrest : ∀ w ∈ validators, w.markFound ext = w := fun w hw =>
        RequiredExtension.markFound_of_ne fun e =>
          hv (List.mem_map.mpr ⟨w, hw, e.trans hid.symm⟩)
      rw [if_pos hid, List.map_cons, List.map_congr_left hrest, List.map_id']
      simp only [RequiredExtension.markFound, hid, decide_true, Bool.or_true]
    · rw [if_neg hid, List.map_cons, RequiredExtension.markFound_of_ne hid]
      exact congrArg (v :: ·) (ih hnd')

theorem validateExtension_snd (ext : Extension) (validators : List RequiredExtension)
    (hnd : (validators.map (·.validator.oid)).Nodup) :
    (validateExtension ext validators).2 = [] ↔
      ExtensionPasses (validators.map (·.validator)) ext := by
  induction validators with
  | nil =>
    simp only [validateExtension, ExtensionPasses]
    cases ext.critical <;> simp
  | cons v validators ih =>
    obtain ⟨hv, hnd'⟩ := List.nodup_cons.mp hnd
    unfold validateExtension
    by_cases hid : v.validator.oid = ext.extnId
    · rw [if_pos hid, List.map_cons, extensionPasses_head hid (by simpa using hv)]
      exact List.map_eq_nil_iff
    · rw [if_neg hid, List.map_cons, extensionPasses_cons hid]
      exact ih hnd'

/-! ## the whole loop -/

/-- the mark that the extensions leave: the identifier is among theirs -/
def RequiredExtension.markAll (extensions : List Extension) (v : RequiredExtension) :
    RequiredExtension :=
  { v with found := v.found || extensions.any (v.validator.oid = ·.extnId) }

theorem map_markFound_oid (ext : Extension) (validators : List RequiredExtension) :
    (validators.map (·.markFound ext)).map (·.validator) = validators.map (·.validator) := by
  rw [List.map_map]
  rfl

theorem validateExtensionsFrom_fst (extensions : List Extension) :
    ∀ (validators : List RequiredExtension) (errors : List String),
      (validators.map (·.validator.oid)).Nodup →
      (validateExtensionsFrom extensions validators errors).1 =
        validators.map (·.markAll extensions) := by
  induction extensions with
  | nil =>
    intro validators errors _
    have h : ∀ v ∈ validators, v.markAll [] = v := fun v _ => by
      simp only [RequiredExtension.markAll, List.any_nil, Bool.or_false]
    rw [List.map_congr_left h, List.map_id']
    rfl
  | cons ext extensions ih =>
    intro validators errors hnd
    unfold validateExtensionsFrom
    have hmark := validateExtension_fst ext validators hnd
    rw [ih _ _ (by rw [hmark, List.map_map]; exact hnd), hmark, List.map_map]
    refine List.map_congr_left fun v _ => ?_
    simp only [Function.comp_apply, RequiredExtension.markAll, RequiredExtension.markFound,
      List.any_cons, Bool.or_assoc]

theorem validateExtensionsFrom_snd (extensions : List Extension) :
    ∀ (validators : List RequiredExtension) (errors : List String),
      (validators.map (·.validator.oid)).Nodup →
      ((validateExtensionsFrom extensions validators errors).2 = [] ↔
        errors = [] ∧
          ∀ ext ∈ extensions, ExtensionPasses (validators.map (·.validator)) ext) := by
  induction extensions with
  | nil =>
    intro validators errors _
    simp [validateExtensionsFrom]
  | cons ext extensions ih =>
    intro validators errors hnd
    unfold validateExtensionsFrom
    have hmark := validateExtension_fst ext validators hnd
    rw [ih _ _ (by rw [hmark, List.map_map]; exact hnd), hmark, map_markFound_oid,
      List.append_eq_nil_iff, validateExtension_snd ext validators hnd, List.forall_mem_cons,
      and_assoc]

/-- what is left to report at the end: the validators that no extension has marked -/
theorem notFound_eq_nil_iff (extensions : List Extension) (validators : List ExtensionValidator) :
    ((validators.map fun v => RequiredExtension.markAll extensions ⟨false, v⟩).filter
        fun v => !v.found) = [] ↔
      ∀ v ∈ validators, ∃ ext ∈ extensions, ext.extnId = v.oid := by
  rw [List.filter_eq_nil_iff, List.forall_mem_map]
  refine forall₂_congr fun v _ => ?_
  rw [Bool.not_eq_true', Bool.not_eq_false, RequiredExtension.markAll, Bool.false_or,
    List.any_eq_true]
  simp only [decide_eq_true_eq, @eq_comm _ v.oid]

theorem validateExtensions_eq_nil_iff (validators : List ExtensionValidator)
    (hnd : (validators.map (·.oid)).Nodup) (extensions : List Extension) :
    validateExtensions validators extensions = [] ↔ ExtensionsAccepted validators extensions := by
  have hnd' : ((validators.map (RequiredExtension.mk false)).map (·.validator.oid)).Nodup := by
    rw [List.map_map]
    exact hnd
  have hself : (validators.map (RequiredExtension.mk false)).map (·.validator) = validators := by
    rw [List.map_map]
    exact List.map_id' validators
  unfold validateExtensions
  rw [List.append_eq_nil_iff, List.map_eq_nil_iff, validateExtensionsFrom_snd _ _ _ hnd', hself,
    validateExtensionsFrom_fst _ _ _ hnd', List.map_map]
  rw [show ((·.markAll extensions) ∘ RequiredExtension.mk false) =
      fun v => RequiredExtension.markAll extensions ⟨false, v⟩ from rfl,
    notFound_eq_nil_iff]
  constructor
  · rintro ⟨⟨-, hpass⟩, hreq⟩
    exact ⟨hreq, fun v hv ext hext => (hpass ext hext).1 v hv, fun ext hext => (hpass ext hext).2⟩
  · intro h
    exact ⟨⟨rfl, fun ext hext => ⟨fun v hv => h.valid v hv ext hext, h.unknown ext hext⟩⟩,
      h.required⟩

/-- The verdict is exact, and it is a matter of which extensions there are: an order, or a
duplicate more, does not change it. -/
theorem validateExtensions_exact (validators : List ExtensionValidator)
    (hnd : (validators.map (·.oid)).Nodup) (extensions : List Extension) :
    (validateExtensions validators extensions = [] ↔
      (∀ v ∈ validators, ∃ ext ∈ extensions, ext.extnId = v.oid) ∧
      (∀ ext ∈ extensions, ∀ v ∈ validators, v.oid = ext.extnId → v.validate ext = []) ∧
      (∀ ext ∈ extensions, (∀ v ∈ validators, v.oid ≠ ext.extnId) → ext.critical = false)) ∧
    ∀ reordered : List Extension, reordered.Perm extensions →
      (validateExtensions validators reordered = [] ↔
        validateExtensions validators extensions = []) := by
  constructor
  · rw [validateExtensions_eq_nil_iff validators hnd]
    constructor
    · intro h
      exact ⟨h.required, fun ext hext v hv e => h.valid v hv ext hext e.symm, h.unknown⟩
    · rintro ⟨hreq, hvalid, hunknown⟩
      exact ⟨hreq, fun v hv ext hext e => hvalid ext hext v hv e.symm, hunknown⟩
  · intro reordered hperm
    rw [validateExtensions_eq_nil_iff validators hnd, validateExtensions_eq_nil_iff validators hnd]
    exact ⟨.of_mem_iff fun _ => hperm.mem_iff.symm, .of_mem_iff fun _ => hperm.mem_iff⟩

open Reference in
/-- the basic constraints between two key usages of an issuing authority -/
theorem validateExtensions_exact_sample :
    let keyUsage : Extension := ⟨Oid.keyUsage, true, [0x03, 0x02, 0x01, 0x06]⟩
    let basicConstraints : Extension :=
      ⟨Oid.basicConstraints, true, [0x30, 0x06, 0x01, 0x01, 0xff, 0x02, 0x01, 0x00]⟩
    validateExtensions [basicConstraintsValidator, keyUsageValidator iacaKeyUsage]
        [keyUsage, basicConstraints, keyUsage] = [] ∧
      validateExtensions [basicConstraintsValidator, keyUsageValidator iacaKeyUsage]
        [keyUsage, keyUsage, basicConstraints] = [] := by
  intro keyUsage basicConstraints
  have h := validateExtensions_exact [basicConstraintsValidator, keyUsageValidator iacaKeyUsage]
    (by decide) [keyUsage, basicConstraints, keyUsage]
  have hvalid := h.1.mpr ⟨by decide, by decide, by decide⟩
  exact ⟨hvalid, (h.2 _ (by decide)).mpr hvalid⟩

/-! ## the profiles

An extension is carried when it is there and each one of its identifier decodes to a value with
the property.
-/

def CarriesExtension {α : Type} (extensions : List Extension) (oid : ObjectIdentifier)
    (fromDer : Bytes → Except String α) (P : α → Prop) : Prop :=
  (∃ ext ∈ extensions, ext.extnId = oid) ∧
    ∀ ext ∈ extensions, ext.extnId = oid → ∃ a, fromDer ext.extnValue = .ok a ∧ P a

/-- one validator is satisfied by the extensions of its identifier -/
def ExtensionValidator.SatisfiedBy (v : ExtensionValidator) (extensions : List Extension) : Prop :=
  (∃ ext ∈ extensions, ext.extnId = v.oid) ∧
    ∀ ext ∈ extensions, ext.extnId = v.oid → v.validate ext = []

theorem extensionsAccepted_iff (validators : List ExtensionValidator)
    (extensions : List Extension) :
    ExtensionsAccepted validators extensions ↔
      (∀ v ∈ validators, v.SatisfiedBy extensions) ∧
        ∀ ext ∈ extensions, ext.extnId ∉ validators.map (·.oid) → ext.critical = false := by
  have hunknown : ∀ ext : Extension, ext.extnId ∉ validators.map (·.oid) ↔
      ∀ v ∈ validators, v.oid ≠ ext.extnId := fun ext => by
    simp only [List.mem_map, not_exists, not_and, ne_eq]
  constructor
  · intro h
    exact ⟨fun v hv => ⟨h.required v hv, h.valid v hv⟩,
      fun ext hext hid => h.unknown ext hext ((hunknown ext).mp hid)⟩
  · rintro ⟨hall, hcritical⟩
    exact ⟨fun v hv => (hall v hv).1, fun v hv => (hall v hv).2,
      fun ext hext hid => hcritical ext hext ((hunknown ext).mpr hid)⟩

theorem decodingValidator_validate_eq_nil {α : Type} (oid : ObjectIdentifier) (extName : String)
    (fromDer : Bytes → Except String α) (check : α → List String) (ext : Extension) :
    (decodingValidator oid extName fromDer check).validate ext = [] ↔
      ∃ a, fromDer ext.extnValue = .ok a ∧ check a = [] := by
  unfold decodingValidator
  cases h : fromDer ext.extnValue <;> simp [h]

theorem decodingValidator_satisfiedBy {α : Type} {oid : ObjectIdentifier} {extName : String}
    {fromDer : Bytes → Except String α} {check : α → List String} {P : α → Prop}
    (h : ∀ a, check a = [] ↔ P a) (extensions : List Extension) :
    (decodingValidator oid extName fromDer check).SatisfiedBy extensions ↔
      CarriesExtension extensions oid fromDer P := by
  refine and_congr_right fun _ => forall₂_congr fun ext _ => imp_congr_right fun _ => ?_
  rw [decodingValidator_validate_eq_nil]
  simp only [h]

section
variable [X509Cert]

/-- the extensions that no certificate may have -/
def disallowedExtensions : List ObjectIdentifier :=
  [Oid.policyMappings, Oid.nameConstraints, Oid.policyConstraints, Oid.inhibitAnyPolicy,
   Oid.freshestCrl]

theorem checkForDisallowedX509Extensions_eq_nil (extensions : List Extension) :
    checkForDisallowedX509Extensions extensions = [] ↔
      ∀ ext ∈ extensions, ext.extnId ∉ disallowedExtensions := by
  unfold checkForDisallowedX509Extensions
  rw [List.filterMap_eq_nil_iff, List.forall_mem_map]
  refine forall₂_congr fun ext _ => ?_
  change (if ext.extnId ∈ disallowedExtensions then _ else _) = none ↔ _
  split <;> simp_all

/-! ### what the validators accept -/

theorem subjectKeyIdentifierValidator_satisfiedBy (certificate : Certificate)
    (extensions : List Extension) :
    (subjectKeyIdentifierValidator certificate).SatisfiedBy extensions ↔
      CarriesExtension extensions Oid.subjectKeyIdentifier X509Cert.subjectKeyIdentifier
        (· = X509Cert.sha1 certificate.subjectPublicKeyInfo.rawBytes) :=
  decodingValidator_satisfiedBy (fun ski => by simp [eq_comm]) extensions

theorem keyUsageValidator_satisfiedBy (expectedFlagset : List KeyUsages)
    (extensions : List Extension) :
    (keyUsageValidator expectedFlagset).SatisfiedBy extensions ↔
      CarriesExtension extensions Oid.keyUsage X509Cert.keyUsage (· = expectedFlagset) :=
  decodingValidator_satisfiedBy (fun ku => by simp) extensions

theorem basicConstraintsValidator_satisfiedBy (extensions : List Extension) :
    basicConstraintsValidator.SatisfiedBy extensions ↔
      CarriesExtension extensions Oid.basicConstraints X509Cert.basicConstraints
        (· = ⟨true, some 0⟩) := by
  refine decodingValidator_satisfiedBy (fun constraints => ?_) extensions
  obtain ⟨ca, pathLenConstraint⟩ := constraints
  cases ca <;> simp

/-- a name for one purpose only, and at least one -/
def IsOnly (expectedOid : ObjectIdentifier) (eku : List ObjectIdentifier) : Prop :=
  eku ≠ [] ∧ ∀ oid ∈ eku, oid = expectedOid

theorem extendedKeyUsageValidator_satisfiedBy (expectedOid : ObjectIdentifier)
    (extensions : List Extension) :
    (extendedKeyUsageValidator expectedOid).SatisfiedBy extensions ↔
      CarriesExtension extensions Oid.extendedKeyUsage X509Cert.extendedKeyUsage
        (IsOnly expectedOid) := by
  refine decodingValidator_satisfiedBy (fun eku => ?_) extensions
  by_cases hall : ∀ oid ∈ eku, oid = expectedOid
  · cases eku <;> simp_all [IsOnly]
  · have h : (eku.all fun oid => oid = expectedOid) = false := by simpa using hall
    simp [IsOnly, h, hall]

/-- a distribution point that names a place to look, and nothing it may not -/
def DistributionPoint.IsPlain (point : DistributionPoint) : Prop :=
  point.crlIssuer = false ∧ point.reasons = false ∧
    ∃ names uri, point.distributionPoint = some (.FullName names) ∧
      .UniformResourceIdentifier uri ∈ names

omit [X509Cert] in
theorem DistributionPoint.hasUri_iff (point : DistributionPoint) :
    point.hasUri = true ↔ ∃ names uri, point.distributionPoint = some (.FullName names) ∧
      .UniformResourceIdentifier uri ∈ names := by
  unfold DistributionPoint.hasUri
  constructor
  · intro h
    split at h
    · next names hnames =>
      obtain ⟨name, hmem, hname⟩ := List.any_eq_true.mp h
      split at hname
      · next uri => exact ⟨names, uri, hnames, hmem⟩
      · cases hname
    · cases h
  · rintro ⟨names, uri, hnames, hmem⟩
    rw [hnames]
    exact List.any_eq_true.mpr ⟨_, hmem, rfl⟩

theorem crlDistributionPointsValidator_satisfiedBy (extensions : List Extension) :
    crlDistributionPointsValidator.SatisfiedBy extensions ↔
      CarriesExtension extensions Oid.crlDistributionPoints X509Cert.crlDistributionPoints
        (fun points => points ≠ [] ∧ ∀ point ∈ points, point.IsPlain) := by
  refine decodingValidator_satisfiedBy (fun points => ?_) extensions
  cases points with
  | nil => simp
  | cons point points =>
    rw [if_neg (by simp), List.flatMap_eq_nil_iff, and_iff_right (List.cons_ne_nil _ _)]
    refine forall₂_congr fun p _ => ?_
    rw [DistributionPoint.IsPlain, ← DistributionPoint.hasUri_iff, List.append_eq_nil_iff,
      List.append_eq_nil_iff]
    cases p.crlIssuer <;> cases p.reasons <;> cases p.hasUri <;> simp

/-- an e-mail address or a URI -/
def GeneralName.IsContact (generalName : GeneralName) : Prop :=
  (∃ s, generalName = .Rfc822Name s) ∨ ∃ s, generalName = .UniformResourceIdentifier s

theorem issuerAlternativeNameValidator_satisfiedBy (extensions : List Extension) :
    issuerAlternativeNameValidator.SatisfiedBy extensions ↔
      CarriesExtension extensions Oid.issuerAltName X509Cert.issuerAltName
        (fun ian => ∀ generalName ∈ ian, generalName.IsContact) := by
  refine decodingValidator_satisfiedBy (fun ian => ?_) extensions
  constructor
  · intro h
    split at h
    · next hall =>
      intro generalName hmem
      have hok := List.all_eq_true.mp hall generalName hmem
      cases generalName with
      | Rfc822Name s => exact .inl ⟨s, rfl⟩
      | UniformResourceIdentifier s => exact .inr ⟨s, rfl⟩
      | other tag value => cases hok
    · cases h
  · intro h
    rw [if_pos]
    refine List.all_eq_true.mpr fun generalName hmem => ?_
    rcases h generalName hmem with ⟨s, rfl⟩ | ⟨s, rfl⟩ <;> rfl

/-! ### the three profiles -/

/-- the part that the three profiles share, with the identifiers that each requires -/
structure CommonProfile (certificate : Certificate) (required : List ObjectIdentifier) :
    Prop where
  subjectKeyIdentifier : CarriesExtension certificate.extensions Oid.subjectKeyIdentifier
    X509Cert.subjectKeyIdentifier (· = X509Cert.sha1 certificate.subjectPublicKeyInfo.rawBytes)
  crlDistributionPoints : CarriesExtension certificate.extensions Oid.crlDistributionPoints
    X509Cert.crlDistributionPoints
    fun points => points ≠ [] ∧ ∀ point ∈ points, point.IsPlain
  issuerAltName : CarriesExtension certificate.extensions Oid.issuerAltName X509Cert.issuerAltName
    fun ian => ∀ generalName ∈ ian, generalName.IsContact
  allowed : ∀ ext ∈ certificate.extensions, ext.extnId ∉ disallowedExtensions
  noUnknownCritical : ∀ ext ∈ certificate.extensions, ext.extnId ∉ required →
    ext.critical = false

/-- an issuing authority: it signs certificates and revocation lists, and no authority below it -/
structure IacaProfile (certificate : Certificate) : Prop extends
    CommonProfile certificate [Oid.subjectKeyIdentifier, Oid.keyUsage, Oid.basicConstraints,
      Oid.crlDistributionPoints, Oid.issuerAltName] where
  keyUsage : CarriesExtension certificate.extensions Oid.keyUsage X509Cert.keyUsage
    (· = [.KeyCertSign, .CRLSign])
  basicConstraints : CarriesExtension certificate.extensions Oid.basicConstraints X509Cert.basicConstraints
    (· = ⟨true, some 0⟩)

/-- a leaf: it makes signatures, for one purpose -/
structure LeafProfile (purpose : ObjectIdentifier) (certificate : Certificate) : Prop extends
    CommonProfile certificate [Oid.subjectKeyIdentifier, Oid.extendedKeyUsage, Oid.keyUsage,
      Oid.crlDistributionPoints, Oid.issuerAltName] where
  extendedKeyUsage : CarriesExtension certificate.extensions Oid.extendedKeyUsage X509Cert.extendedKeyUsage
    (IsOnly purpose)
  keyUsage : CarriesExtension certificate.extensions Oid.keyUsage X509Cert.keyUsage
    (· = [.DigitalSignature])

theorem validateProfile_eq_nil_iff (validators : Certificate → List ExtensionValidator)
    (certificate : Certificate) (hnd : ((validators certificate).map (·.oid)).Nodup) :
    validateProfile validators certificate = [] ↔
      (∀ ext ∈ certificate.extensions, ext.extnId ∉ disallowedExtensions) ∧
      (∀ v ∈ validators certificate, v.SatisfiedBy certificate.extensions) ∧
      ∀ ext ∈ certificate.extensions, ext.extnId ∉ (validators certificate).map (·.oid) →
        ext.critical = false := by
  unfold validateProfile
  rw [List.append_eq_nil_iff, checkForDisallowedX509Extensions_eq_nil,
    validateExtensions_eq_nil_iff _ hnd, extensionsAccepted_iff]

theorem validateIacaExtensions_eq_nil_iff (certificate : Certificate) :
    validateIacaExtensions certificate = [] ↔ IacaProfile certificate := by
  unfold validateIacaExtensions
  have hnd : List.Nodup [Oid.subjectKeyIdentifier, Oid.keyUsage, Oid.basicConstraints,
    Oid.crlDistributionPoints, Oid.issuerAltName] := by decide
  rw [validateProfile_eq_nil_iff _ _ (by exact hnd)]
  simp only [List.forall_mem_cons, List.not_mem_nil, false_imp_iff, implies_true, and_true,
    subjectKeyIdentifierValidator_satisfiedBy, keyUsageValidator_satisfiedBy,
    basicConstraintsValidator_satisfiedBy, crlDistributionPointsValidator_satisfiedBy,
    issuerAlternativeNameValidator_satisfiedBy]
  constructor
  · rintro ⟨hallowed, ⟨hski, hku, hbc, hcrl, hian⟩, hcritical⟩
    exact ⟨⟨hski, hcrl, hian, hallowed, hcritical⟩, hku, hbc⟩
  · intro h
    exact ⟨h.allowed, ⟨h.subjectKeyIdentifier, h.keyUsage, h.basicConstraints,
      h.crlDistributionPoints, h.issuerAltName⟩, h.noUnknownCritical⟩

theorem leafValidators_eq_nil_iff (purpose : ObjectIdentifier) (certificate : Certificate) :
    validateProfile (fun certificate =>
      [subjectKeyIdentifierValidator certificate, extendedKeyUsageValidator purpose,
       keyUsageValidator [.DigitalSignature], crlDistributionPointsValidator,
       issuerAlternativeNameValidator]) certificate = [] ↔ LeafProfile purpose certificate := by
  have hnd : List.Nodup [Oid.subjectKeyIdentifier, Oid.extendedKeyUsage, Oid.keyUsage,
    Oid.crlDistributionPoints, Oid.issuerAltName] := by decide
  rw [validateProfile_eq_nil_iff _ _ (by exact hnd)]
  simp only [List.forall_mem_cons, List.not_mem_nil, false_imp_iff, implies_true, and_true,
    subjectKeyIdentifierValidator_satisfiedBy, extendedKeyUsageValidator_satisfiedBy,
    keyUsageValidator_satisfiedBy, crlDistributionPointsValidator_satisfiedBy,
    issuerAlternativeNameValidator_satisfiedBy]
  constructor
  · rintro ⟨hallowed, ⟨hski, heku, hku, hcrl, hian⟩, hcritical⟩
    exact ⟨⟨hski, hcrl, hian, hallowed, hcritical⟩, heku, hku⟩
  · intro h
    exact ⟨h.allowed, ⟨h.subjectKeyIdentifier, h.extendedKeyUsage, h.keyUsage,
      h.crlDistributionPoints, h.issuerAltName⟩, h.noUnknownCritical⟩

theorem validateDocumentSignerCertificateExtensions_eq_nil_iff (certificate : Certificate) :
    validateDocumentSignerCertificateExtensions certificate = [] ↔
      LeafProfile documentSignerExtendedKeyUsageOid certificate :=
  leafValidators_eq_nil_iff documentSignerExtendedKeyUsageOid certificate

theorem validateMdocReaderCertificateExtensions_eq_nil_iff (certificate : Certificate) :
    validateMdocReaderCertificateExtensions certificate = [] ↔
      LeafProfile mdocReaderExtendedKeyUsageOid certificate :=
  leafValidators_eq_nil_iff mdocReaderExtendedKeyUsageOid certificate

end

end Isomdl
