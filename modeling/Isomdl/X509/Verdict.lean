import Isomdl.Decoding
import Isomdl.X509.Profiles
import Isomdl.X509.Validation

/-!
# What a valid chain says

Each check of the three rulesets is read as a fact about the leaf and an anchor.  A ruleset then
has a part for the leaf alone (`LeafPasses`), a search for the first anchor that can be the issuer
(`IsIssuer`), and a part for the anchor that the search has found (`AnchorPasses`).
-/

set_option linter.unusedSectionVars false

namespace Isomdl

section
variable [X509Cert] [P256] [Sha2] [Clock]

/-! ## the checks -/

def Certificate.IsCurrent (certificate : Certificate) : Prop :=
  certificate.notBefore ≤ Clock.nowUtc ∧ Clock.nowUtc ≤ certificate.notAfter

theorem checkValidityPeriod_eq_nil_iff (certificate : Certificate) :
    checkValidityPeriod certificate = [] ↔ certificate.IsCurrent := by
  unfold checkValidityPeriod Certificate.IsCurrent
  rw [List.append_eq_nil_iff, ite_eq_right_iff, ite_eq_right_iff]
  simp only [List.cons_ne_nil, imp_false, not_lt]
  exact and_comm

/-- a key identifier of the issuer is the authority key identifier of the subject -/
def KeyIdentified (issuer subject : Certificate) : Prop :=
  ∃ keyIdentifier, (∃ ext ∈ issuer.extensions, ext.extnId = Oid.subjectKeyIdentifier ∧
      X509Cert.subjectKeyIdentifier ext.extnValue = .ok keyIdentifier) ∧
    ∃ ext ∈ subject.extensions, ext.extnId = Oid.authorityKeyIdentifier ∧
      X509Cert.authorityKeyIdentifier ext.extnValue = .ok (some keyIdentifier)

theorem keyIdentifierCheck_iff (issuer subject : Certificate) :
    keyIdentifierCheck issuer.extensions subject.extensions = true ↔
      KeyIdentified issuer subject := by
  unfold keyIdentifierCheck KeyIdentified
  simp only [List.any_eq_true, List.mem_filterMap, decide_eq_true_eq]
  constructor
  · rintro ⟨aki, ⟨ext, hext, haki⟩, ski, ⟨ext', hext', hski⟩, rfl⟩
    split at haki
    · next hid =>
      split at hski
      · next hid' =>
        refine ⟨aki, ⟨ext', hext', hid', ?_⟩, ext, hext, hid, ?_⟩
        · cases h : X509Cert.subjectKeyIdentifier ext'.extnValue <;> simp_all [Except.toOption]
        · cases h : X509Cert.authorityKeyIdentifier ext.extnValue <;> simp_all [Except.toOption]
      · cases hski
    · cases haki
  · rintro ⟨id, ⟨ext', hext', hid', hski⟩, ext, hext, hid, haki⟩
    refine ⟨id, ⟨ext, hext, ?_⟩, id, ⟨ext', hext', ?_⟩, rfl⟩
    · rw [if_pos hid, haki]
      rfl
    · rw [if_pos hid', hski]
      rfl

/-- the issuer's key verifies the subject's signature -/
def Signed (issuer subject : Certificate) : Prop :=
  ∃ key sig tbs, publicKeyWithOid issuer Oid.SECP_256_R_1 = .ok key ∧
    P256.signatureFromDer subject.signature = .ok sig ∧ subject.tbsDer = .ok tbs ∧
    P256.verifyPrehashed key (Sha2.sha256 tbs) sig = .ok ()

theorem isOk_iff {α : Type} (result : Except String α) :
    result.isOk = true ↔ ∃ a, result = .ok a := by
  cases result <;> simp [Except.isOk, Except.toBool]

theorem issuerSignedSubject_iff (subject issuer : Certificate) :
    issuerSignedSubject subject issuer = true ↔ Signed issuer subject := by
  unfold issuerSignedSubject Signed
  constructor
  · intro h
    split at h
    · cases h
    next key hkey =>
    split at h
    · cases h
    next sig hsig =>
    split at h
    · cases h
    next tbs htbs =>
    obtain ⟨⟨⟩, hverify⟩ := (isOk_iff _).mp h
    exact ⟨key, sig, tbs, hkey, hsig, htbs, hverify⟩
  · rintro ⟨key, sig, tbs, hkey, hsig, htbs, hverify⟩
    simp only [hkey, hsig, htbs]
    exact (isOk_iff _).mpr ⟨(), hverify⟩

/-- the anchor can be the issuer of the subject -/
structure IsIssuer (purpose : TrustPurpose) (subject : Certificate) (anchor : TrustAnchor) :
    Prop where
  purpose : anchor.purpose = purpose
  named : anchor.certificate.subject = subject.issuer
  keyIdentified : KeyIdentified anchor.certificate subject
  signed : Signed anchor.certificate subject
  current : anchor.certificate.IsCurrent

theorem isCandidate_iff (subject : Certificate) (purpose : TrustPurpose) (anchor : TrustAnchor) :
    isCandidate subject purpose anchor = true ↔ IsIssuer purpose subject anchor := by
  unfold isCandidate
  simp only [Bool.and_eq_true, decide_eq_true_eq, List.isEmpty_iff, keyIdentifierCheck_iff,
    issuerSignedSubject_iff, checkValidityPeriod_eq_nil_iff]
  constructor
  · rintro ⟨⟨⟨⟨hpurpose, hnamed⟩, hkey⟩, hsigned⟩, hcurrent⟩
    exact ⟨hpurpose, hnamed, hkey, hsigned, hcurrent⟩
  · intro h
    exact ⟨⟨⟨⟨h.purpose, h.named⟩, h.keyIdentified⟩, h.signed⟩, h.current⟩

/-- each subject has exactly one value of the attribute, and it is the same -/
def SharesName (nameOid : ObjectIdentifier) (this that : Certificate) : Prop :=
  ∃ value, getRdns this nameOid = [value] ∧ getRdns that nameOid = [value]

theorem nameMatches_eq_none_iff (nameOid : ObjectIdentifier) (this that : Certificate) :
    nameMatches nameOid this that = none ↔ SharesName nameOid this that := by
  unfold nameMatches SharesName
  constructor
  · intro h
    split at h
    all_goals try cases h
    next thisC thatC hthis hthat =>
    split at h
    · cases h
    · next heq =>
      have e : thisC = thatC := not_not.mp heq
      exact ⟨thisC, hthis, by rw [hthat, e]⟩
  · rintro ⟨value, hthis, hthat⟩
    simp only [hthis, hthat, ne_eq, not_true_eq_false, if_false]

theorem toList_map_eq_nil_iff {α β : Type} (o : Option α) (f : α → β) :
    o.toList.map f = [] ↔ o = none := by
  cases o <;> simp

/-! ## the rulesets -/

/-- the purpose of the anchors that a ruleset looks at -/
def ValidationRuleset.trustPurpose : ValidationRuleset → TrustPurpose
  | .Mdl => .Iaca
  | .AamvaMdl => .Iaca
  | .MdlReaderOneStep => .ReaderCa

/-- the checks on the leaf alone -/
def ValidationRuleset.LeafPasses (ruleset : ValidationRuleset) (leaf : Certificate) : Prop :=
  leaf.IsCurrent ∧ LeafProfile
    (match ruleset with
      | .Mdl => documentSignerExtendedKeyUsageOid
      | .AamvaMdl => documentSignerExtendedKeyUsageOid
      | .MdlReaderOneStep => mdocReaderExtendedKeyUsageOid) leaf

/-- the checks on the anchor that the search has found -/
def ValidationRuleset.AnchorPasses (leaf ca : Certificate) : ValidationRuleset → Prop
  | .Mdl => SharesName Oid.COUNTRY_NAME leaf ca ∧ IacaProfile ca ∧
      (hasRdn leaf Oid.STATE_OR_PROVINCE_NAME ∨ hasRdn ca Oid.STATE_OR_PROVINCE_NAME →
        SharesName Oid.STATE_OR_PROVINCE_NAME leaf ca)
  | .AamvaMdl => SharesName Oid.COUNTRY_NAME leaf ca ∧ IacaProfile ca ∧
      SharesName Oid.STATE_OR_PROVINCE_NAME leaf ca
  | .MdlReaderOneStep => True

/-- the anchor that a ruleset goes on with -/
def firstCandidate (subject : Certificate) (trustAnchors : TrustAnchorRegistry)
    (trustPurpose : TrustPurpose) : Option TrustAnchor :=
  trustAnchors.anchors.find? (isCandidate subject trustPurpose)

theorem head?_findTrustAnchorCandidates (subject : Certificate)
    (trustAnchors : TrustAnchorRegistry) (trustPurpose : TrustPurpose) :
    (findTrustAnchorCandidates subject trustAnchors trustPurpose).head? =
      (firstCandidate subject trustAnchors trustPurpose).map (·.certificate) := by
  unfold findTrustAnchorCandidates firstCandidate
  rw [List.head?_map, List.head?_filter]

/-- the errors of the leaf, in the words of a ruleset -/
theorem leafErrors_eq_nil_iff (context : ErrorContext) (leaf : Certificate)
    (validateExtensions : Certificate → List String) {P : Certificate → Prop}
    (h : ∀ certificate, validateExtensions certificate = [] ↔ P certificate) :
    (checkValidityPeriod leaf).map (errorWithContext context) ++
        (validateExtensions leaf).map (errorWithContext context) = [] ↔
      leaf.IsCurrent ∧ P leaf := by
  rw [List.append_eq_nil_iff, List.map_eq_nil_iff, List.map_eq_nil_iff,
    checkValidityPeriod_eq_nil_iff, h]

theorem mdlValidateInner_of_none {x5chain : X5Chain} {trustAnchors : TrustAnchorRegistry}
    (h : firstCandidate x5chain.endEntityCertificate trustAnchors .Iaca = none) :
    ∃ errors, mdlValidateInner x5chain trustAnchors = (errors, none) ∧ errors ≠ [] := by
  simp only [mdlValidateInner, head?_findTrustAnchorCandidates, h, Option.map_none]
  exact ⟨_, rfl, by simp⟩

/-- the errors that `mdlValidateInner` leaves to its callers -/
theorem mdlValidateInner_of_some {x5chain : X5Chain} {trustAnchors : TrustAnchorRegistry}
    {anchor : TrustAnchor}
    (h : firstCandidate x5chain.endEntityCertificate trustAnchors .Iaca = some anchor) :
    ∃ errors, mdlValidateInner x5chain trustAnchors = (errors, some anchor.certificate) ∧
      (errors = [] ↔
        (x5chain.endEntityCertificate.IsCurrent ∧
          LeafProfile documentSignerExtendedKeyUsageOid x5chain.endEntityCertificate) ∧
        SharesName Oid.COUNTRY_NAME x5chain.endEntityCertificate anchor.certificate ∧
        IacaProfile anchor.certificate) := by
  simp only [mdlValidateInner, head?_findTrustAnchorCandidates, h, Option.map_some]
  refine ⟨_, rfl, ?_⟩
  rw [List.append_eq_nil_iff, List.append_eq_nil_iff,
    leafErrors_eq_nil_iff _ _ _ validateDocumentSignerCertificateExtensions_eq_nil_iff,
    toList_map_eq_nil_iff, List.map_eq_nil_iff, validateIacaExtensions_eq_nil_iff, and_assoc]
  exact and_congr_right fun _ => and_congr_left fun _ => nameMatches_eq_none_iff _ _ _

theorem mdlValidate_eq_nil_iff (x5chain : X5Chain) (trustAnchors : TrustAnchorRegistry) :
    mdlValidate x5chain trustAnchors = [] ↔
      ValidationRuleset.Mdl.LeafPasses x5chain.endEntityCertificate ∧
        ∃ anchor, firstCandidate x5chain.endEntityCertificate trustAnchors .Iaca = some anchor ∧
          ValidationRuleset.Mdl.AnchorPasses x5chain.endEntityCertificate anchor.certificate := by
  unfold mdlValidate
  cases hfirst : firstCandidate x5chain.endEntityCertificate trustAnchors .Iaca with
  | none =>
    obtain ⟨errors, hinner, herrors⟩ := mdlValidateInner_of_none hfirst
    simp [hinner, herrors]
  | some anchor =>
    obtain ⟨errors, hinner, herrors⟩ := mdlValidateInner_of_some hfirst
    simp only [hinner, Option.some.injEq, exists_eq_left']
    by_cases hstate : hasRdn x5chain.endEntityCertificate Oid.STATE_OR_PROVINCE_NAME ∨
        hasRdn anchor.certificate Oid.STATE_OR_PROVINCE_NAME
    · have hmatches := nameMatches_eq_none_iff Oid.STATE_OR_PROVINCE_NAME
        x5chain.endEntityCertificate anchor.certificate
      rw [if_pos (by simpa using hstate), List.append_eq_nil_iff, herrors, toList_map_eq_nil_iff]
      unfold stateOrProvinceNameMatches
      rw [hmatches]
      simp only [ValidationRuleset.LeafPasses, ValidationRuleset.AnchorPasses, and_assoc, hstate,
        true_imp_iff]
    · rw [if_neg (by simpa using hstate), herrors]
      simp only [ValidationRuleset.LeafPasses, ValidationRuleset.AnchorPasses, and_assoc, hstate,
        false_imp_iff, and_true]

theorem aamvaMdlValidate_eq_nil_iff (x5chain : X5Chain) (trustAnchors : TrustAnchorRegistry) :
    aamvaMdlValidate x5chain trustAnchors = [] ↔
      ValidationRuleset.AamvaMdl.LeafPasses x5chain.endEntityCertificate ∧
        ∃ anchor, firstCandidate x5chain.endEntityCertificate trustAnchors .Iaca = some anchor ∧
          ValidationRuleset.AamvaMdl.AnchorPasses x5chain.endEntityCertificate
            anchor.certificate := by
  unfold aamvaMdlValidate
  cases hfirst : firstCandidate x5chain.endEntityCertificate trustAnchors .Iaca with
  | none =>
    obtain ⟨errors, hinner, herrors⟩ := mdlValidateInner_of_none hfirst
    simp [hinner, herrors]
  | some anchor =>
    obtain ⟨errors, hinner, herrors⟩ := mdlValidateInner_of_some hfirst
    have hmatches := nameMatches_eq_none_iff Oid.STATE_OR_PROVINCE_NAME
      x5chain.endEntityCertificate anchor.certificate
    simp only [hinner, Option.some.injEq, exists_eq_left']
    rw [List.append_eq_nil_iff, herrors, toList_map_eq_nil_iff]
    unfold stateOrProvinceNameMatches
    rw [hmatches]
    simp only [ValidationRuleset.LeafPasses, ValidationRuleset.AnchorPasses, and_assoc]

theorem findTrustAnchorCandidates_eq_nil_iff (subject : Certificate)
    (trustAnchors : TrustAnchorRegistry) (trustPurpose : TrustPurpose) :
    findTrustAnchorCandidates subject trustAnchors trustPurpose = [] ↔
      firstCandidate subject trustAnchors trustPurpose = none := by
  rw [← List.head?_eq_none_iff, head?_findTrustAnchorCandidates, Option.map_eq_none_iff]

theorem mdlReaderOneStepValidate_eq_nil_iff (x5chain : X5Chain)
    (trustAnchors : TrustAnchorRegistry) :
    mdlReaderOneStepValidate x5chain trustAnchors = [] ↔
      ValidationRuleset.MdlReaderOneStep.LeafPasses x5chain.endEntityCertificate ∧
        ∃ anchor,
          firstCandidate x5chain.endEntityCertificate trustAnchors .ReaderCa = some anchor := by
  have hnil := findTrustAnchorCandidates_eq_nil_iff x5chain.endEntityCertificate trustAnchors
    .ReaderCa
  unfold mdlReaderOneStepValidate
  simp only
  split
  · next hcandidates =>
    simp [hnil.mp hcandidates]
  · next hcandidates =>
    have hsome : ∃ anchor,
        firstCandidate x5chain.endEntityCertificate trustAnchors .ReaderCa = some anchor := by
      refine Option.ne_none_iff_exists'.mp fun hnone => ?_
      rw [hnil.mpr hnone] at hcandidates
      cases hcandidates
    rw [leafErrors_eq_nil_iff _ _ _ validateMdocReaderCertificateExtensions_eq_nil_iff,
      and_iff_left hsome]
    rfl

/-- a ruleset accepts a chain when the leaf passes, and the first anchor that can be its issuer -/
theorem ValidationRuleset.validate_eq_nil_iff (ruleset : ValidationRuleset) (x5chain : X5Chain)
    (trustAnchors : TrustAnchorRegistry) :
    ruleset.validate x5chain trustAnchors = [] ↔
      ruleset.LeafPasses x5chain.endEntityCertificate ∧
        ∃ anchor, firstCandidate x5chain.endEntityCertificate trustAnchors
            ruleset.trustPurpose = some anchor ∧
          ruleset.AnchorPasses x5chain.endEntityCertificate anchor.certificate := by
  cases ruleset with
  | Mdl => exact mdlValidate_eq_nil_iff x5chain trustAnchors
  | AamvaMdl => exact aamvaMdlValidate_eq_nil_iff x5chain trustAnchors
  | MdlReaderOneStep =>
    refine (mdlReaderOneStepValidate_eq_nil_iff x5chain trustAnchors).trans ?_
    simp only [ValidationRuleset.AnchorPasses, and_true]
    rfl

theorem firstCandidate_some {subject : Certificate} {trustAnchors : TrustAnchorRegistry}
    {trustPurpose : TrustPurpose} {anchor : TrustAnchor}
    (h : firstCandidate subject trustAnchors trustPurpose = some anchor) :
    anchor ∈ trustAnchors.anchors ∧ IsIssuer trustPurpose subject anchor :=
  ⟨List.mem_of_find?_eq_some h, (isCandidate_iff _ _ _).mp (List.find?_some h)⟩

/-! ## soundness -/

/-- a document signer's certificate that is trusted through an anchor -/
structure MdlTrusted (leaf : Certificate) (anchor : TrustAnchor) : Prop extends
    IsIssuer .Iaca leaf anchor where
  leafCurrent : leaf.IsCurrent
  leafProfile : LeafProfile documentSignerExtendedKeyUsageOid leaf
  anchorProfile : IacaProfile anchor.certificate
  countryName : SharesName Oid.COUNTRY_NAME leaf anchor.certificate
  stateOrProvinceName : hasRdn leaf Oid.STATE_OR_PROVINCE_NAME ∨
      hasRdn anchor.certificate Oid.STATE_OR_PROVINCE_NAME →
    SharesName Oid.STATE_OR_PROVINCE_NAME leaf anchor.certificate

theorem mdlValidate_sound (x5chain : X5Chain) (trustAnchors : TrustAnchorRegistry) :
    (ValidationRuleset.Mdl.validate x5chain trustAnchors = [] →
      ∃ anchor ∈ trustAnchors.anchors, MdlTrusted x5chain.endEntityCertificate anchor) ∧
    (ValidationRuleset.AamvaMdl.validate x5chain trustAnchors = [] →
      ValidationRuleset.Mdl.validate x5chain trustAnchors = []) := by
  rw [ValidationRuleset.validate_eq_nil_iff, ValidationRuleset.validate_eq_nil_iff]
  constructor
  · rintro ⟨⟨hcurrent, hprofile⟩, anchor, hfirst, hcountry, hiaca, hstate⟩
    obtain ⟨hmem, hissuer⟩ := firstCandidate_some hfirst
    exact ⟨anchor, hmem, { hissuer with
      leafCurrent := hcurrent
      leafProfile := hprofile
      anchorProfile := hiaca
      countryName := hcountry
      stateOrProvinceName := hstate }⟩
  · rintro ⟨hleaf, anchor, hfirst, hcountry, hiaca, hstate⟩
    exact ⟨hleaf, anchor, hfirst, hcountry, hiaca, fun _ => hstate⟩

end

open Reference

namespace X5Chain.Sample

def x5chain : Except String X5Chain := X5Chain.fromCbor (.bytes signerDer)

/-- the authorities with these certificates, in this order -/
def authorities (certificates : List Bytes) : TrustAnchorRegistry where
  anchors := (certificates.filterMap certificateOfDer).map (⟨·, .Iaca⟩)

end X5Chain.Sample

theorem mdlValidate_sound_sample : ∃ x5chain, X5Chain.Sample.x5chain = .ok x5chain ∧
    ValidationRuleset.Mdl.validate x5chain (X5Chain.Sample.authorities [iacaDer]) = [] ∧
    ∃ anchor ∈ (X5Chain.Sample.authorities [iacaDer]).anchors,
      MdlTrusted x5chain.endEntityCertificate anchor := by
  have hcheck : (X5Chain.Sample.x5chain.toOption.any fun x5chain =>
      ValidationRuleset.Mdl.validate x5chain (X5Chain.Sample.authorities [iacaDer]) = []) = true := by
    decide +kernel
  obtain ⟨x5chain, hchain, hvalid⟩ := exists_ok_of_any hcheck
  have hvalid := of_decide_eq_true hvalid
  exact ⟨x5chain, hchain, hvalid, (mdlValidate_sound x5chain _).1 hvalid⟩

end Isomdl
