import Isomdl.Lib.FirstMatch
import Isomdl.X509.Verdict

/-!
# The order of a trust-anchor registry

The search for a trust anchor goes on with the first anchor that can be the issuer, and checks
the rest on that one alone.  So the order matters exactly when the leaf passes and two such
anchors differ in the rest.  The reader's ruleset has no rest, and no order.
-/

namespace Isomdl

open FirstMatch

section
variable [X509Cert] [P256] [Sha2] [Clock]

theorem ValidationRuleset.validate_eq_nil_iff_picks (ruleset : ValidationRuleset)
    (x5chain : X5Chain) (trustAnchors : TrustAnchorRegistry) :
    ruleset.validate x5chain trustAnchors = [] ↔
      ruleset.LeafPasses x5chain.endEntityCertificate ∧
        Picks (isCandidate x5chain.endEntityCertificate ruleset.trustPurpose)
          (fun anchor => ruleset.AnchorPasses x5chain.endEntityCertificate anchor.certificate)
          trustAnchors.anchors :=
  ruleset.validate_eq_nil_iff x5chain trustAnchors

/-- the anchor passes all the checks of the ruleset, as the issuer of the leaf -/
def ValidationRuleset.Accepts (ruleset : ValidationRuleset) (leaf : Certificate)
    (anchor : TrustAnchor) : Prop :=
  ruleset.LeafPasses leaf ∧ IsIssuer ruleset.trustPurpose leaf anchor ∧
    ruleset.AnchorPasses leaf anchor.certificate

/-- the anchors that can be the issuer of the leaf are alike for the rest of the checks -/
def ValidationRuleset.IssuersAgree (ruleset : ValidationRuleset) (leaf : Certificate)
    (trustAnchors : TrustAnchorRegistry) : Prop :=
  ∀ a ∈ trustAnchors.anchors, ∀ b ∈ trustAnchors.anchors,
    IsIssuer ruleset.trustPurpose leaf a → IsIssuer ruleset.trustPurpose leaf b →
      (ruleset.AnchorPasses leaf a.certificate ↔ ruleset.AnchorPasses leaf b.certificate)

theorem agree_iff_issuersAgree (ruleset : ValidationRuleset) (leaf : Certificate)
    (trustAnchors : TrustAnchorRegistry) :
    Agree (isCandidate leaf ruleset.trustPurpose)
        (fun anchor => ruleset.AnchorPasses leaf anchor.certificate) trustAnchors.anchors ↔
      ruleset.IssuersAgree leaf trustAnchors := by
  unfold Agree ValidationRuleset.IssuersAgree
  simp only [isCandidate_iff]

theorem issuersAgree_mdlReaderOneStep (leaf : Certificate) (trustAnchors : TrustAnchorRegistry) :
    ValidationRuleset.MdlReaderOneStep.IssuersAgree leaf trustAnchors :=
  fun _ _ _ _ _ _ => Iff.rfl

/-- the verdict is the same for every order of the anchors -/
def ValidationRuleset.OrderFree (ruleset : ValidationRuleset) (x5chain : X5Chain)
    (trustAnchors : TrustAnchorRegistry) : Prop :=
  ∀ reordered : TrustAnchorRegistry, reordered.anchors.Perm trustAnchors.anchors →
    (ruleset.validate x5chain reordered = [] ↔ ruleset.validate x5chain trustAnchors = [])

theorem ValidationRuleset.orderFree_iff (ruleset : ValidationRuleset) (x5chain : X5Chain)
    (trustAnchors : TrustAnchorRegistry) :
    ruleset.OrderFree x5chain trustAnchors ↔
      (ruleset.LeafPasses x5chain.endEntityCertificate →
        ruleset.IssuersAgree x5chain.endEntityCertificate trustAnchors) := by
  unfold ValidationRuleset.OrderFree
  simp only [ruleset.validate_eq_nil_iff_picks]
  rw [← agree_iff_issuersAgree, ← picks_perm_iff]
  constructor
  · intro h hleaf anchors hperm
    have hsame := h ⟨anchors⟩ hperm
    rwa [and_iff_right hleaf, and_iff_right hleaf] at hsame
  · intro h reordered hperm
    exact and_congr_right fun hleaf => h hleaf reordered.anchors hperm

theorem ValidationRuleset.validate_of_issuersAgree {ruleset : ValidationRuleset}
    {x5chain : X5Chain} {trustAnchors : TrustAnchorRegistry}
    (h : ruleset.LeafPasses x5chain.endEntityCertificate →
      ruleset.IssuersAgree x5chain.endEntityCertificate trustAnchors) :
    ruleset.validate x5chain trustAnchors = [] ↔
      ∃ anchor ∈ trustAnchors.anchors, ruleset.Accepts x5chain.endEntityCertificate anchor := by
  rw [ruleset.validate_eq_nil_iff_picks]
  by_cases hleaf : ruleset.LeafPasses x5chain.endEntityCertificate
  · rw [picks_of_agree ((agree_iff_issuersAgree _ _ _).mpr (h hleaf)), and_iff_right hleaf]
    simp only [isCandidate_iff, ValidationRuleset.Accepts, and_iff_right hleaf]
  · simp only [ValidationRuleset.Accepts, hleaf, false_and, and_false, exists_false]

/-- A chain is valid when the leaf passes, and the first anchor that can be its issuer.  The order
is free exactly when those anchors are alike, and then any anchor that passes all is enough. -/
theorem validate_registry_order (ruleset : ValidationRuleset) (x5chain : X5Chain)
    (trustAnchors : TrustAnchorRegistry) :
    (ruleset.validate x5chain trustAnchors = [] ↔
      ∃ before anchor after, trustAnchors.anchors = before ++ anchor :: after ∧
        (∀ a ∈ before, ¬ IsIssuer ruleset.trustPurpose x5chain.endEntityCertificate a) ∧
        ruleset.Accepts x5chain.endEntityCertificate anchor) ∧
    (ruleset.OrderFree x5chain trustAnchors ↔
      (ruleset.LeafPasses x5chain.endEntityCertificate →
        ruleset.IssuersAgree x5chain.endEntityCertificate trustAnchors)) ∧
    (ruleset.OrderFree x5chain trustAnchors →
      (ruleset.validate x5chain trustAnchors = [] ↔
        ∃ anchor ∈ trustAnchors.anchors, ruleset.Accepts x5chain.endEntityCertificate anchor)) ∧
    ValidationRuleset.MdlReaderOneStep.OrderFree x5chain trustAnchors := by
  have hfree := ruleset.orderFree_iff x5chain trustAnchors
  refine ⟨?_, hfree, fun h => ValidationRuleset.validate_of_issuersAgree (hfree.mp h), ?_⟩
  · rw [ruleset.validate_eq_nil_iff_picks, picks_iff_split]
    simp only [isCandidate_iff]
    constructor
    · rintro ⟨hleaf, before, anchor, after, hsplit, hbefore, hissuer, hpasses⟩
      exact ⟨before, anchor, after, hsplit, hbefore, hleaf, hissuer, hpasses⟩
    · rintro ⟨before, anchor, after, hsplit, hbefore, hleaf, hissuer, hpasses⟩
      exact ⟨hleaf, before, anchor, after, hsplit, hbefore, hissuer, hpasses⟩
  · rw [ValidationRuleset.orderFree_iff]
    exact fun _ => issuersAgree_mdlReaderOneStep _ _

end

open Reference

theorem X5Chain.Sample.authorities_perm {certificates reordered : List Bytes}
    (h : certificates.Perm reordered) :
    (authorities certificates).anchors.Perm (authorities reordered).anchors :=
  (h.filterMap certificateOfDer).map _

/-- An authority with two certificates, one of them without the distribution points that its
profile requires: which of them comes first decides. -/
theorem validate_not_orderFree :
    ¬ ∀ (ruleset : ValidationRuleset) (x5chain : X5Chain) (trustAnchors reordered :
        TrustAnchorRegistry), reordered.anchors.Perm trustAnchors.anchors →
      (ruleset.validate x5chain reordered = [] ↔ ruleset.validate x5chain trustAnchors = []) := by
  intro h
  have hcheck : (X5Chain.Sample.x5chain.toOption.any fun x5chain =>
      ValidationRuleset.Mdl.validate x5chain
          (X5Chain.Sample.authorities [iacaDer, reissuedIacaDer]) = [] ∧
        ValidationRuleset.Mdl.validate x5chain
          (X5Chain.Sample.authorities [reissuedIacaDer, iacaDer]) ≠ []) = true := by
    decide +kernel
  obtain ⟨x5chain, -, hcheck⟩ := exists_ok_of_any hcheck
  obtain ⟨hvalid, hinvalid⟩ := of_decide_eq_true hcheck
  have hperm : (X5Chain.Sample.authorities [iacaDer, reissuedIacaDer]).anchors.Perm
      (X5Chain.Sample.authorities [reissuedIacaDer, iacaDer]).anchors :=
    X5Chain.Sample.authorities_perm (.swap reissuedIacaDer iacaDer [])
  exact hinvalid ((h .Mdl x5chain _ _ hperm).mp hvalid)

end Isomdl
