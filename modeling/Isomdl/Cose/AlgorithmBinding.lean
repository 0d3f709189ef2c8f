import Isomdl.Cose.Agreement
import Isomdl.Decoding
import Isomdl.Reference.X509

/-!
# The algorithm of an accepted structure (`cose/sign1.rs`, `cose/mac0.rs`)

`verify` compares an assigned algorithm label with the verifier's and passes over the other two
kinds of label.  So an accepted structure names the verifier's algorithm, or none, exactly when
its label is assigned or missing.

* `sign1_binds_iff`, `mac0_binds_iff`   for one structure and verifier;
* `verify_binds_algorithm_iff`          for both, and for all structures with a header.
-/

set_option linter.unusedSectionVars false

namespace Isomdl

/-- no label, or one that `verify` compares -/
def Header.Compared (header : Header) : Prop :=
  header.alg = none ∨ ∃ algorithm, header.alg = some (.assigned algorithm)

theorem Header.Allows.compared {header : Header} {algorithm : Algorithm}
    (h : header.Allows algorithm) : header.Compared := by
  rcases h with hnone | hsome
  · exact .inl hnone
  · exact .inr ⟨algorithm, hsome⟩

theorem algorithmMismatch_eq_false_iff (header : Header) (algorithm : Algorithm) :
    algorithmMismatch header algorithm = false ↔
      (header.Compared → header.Allows algorithm) := by
  unfold algorithmMismatch Header.Compared Header.Allows
  rcases header.alg with _ | label
  · simp
  · cases label with
    | assigned alg => simp [@eq_comm _ algorithm alg]
    | privateUse id => simp
    | text name => simp

section
variable [Coset]

/-- the signature is good for the one payload under the protected header -/
def Sign1Authentic {S : Type} (c : CoseSign1) (verifier : Verifier S)
    (detached aad : Option Bytes) : Prop :=
  ∃ payload, onePayload c.payload detached = some payload ∧
    verifier.Accepts
      (Coset.sigStructureData .coseSign1 c.protectedHeader none (aad.getD []) payload) c.signature

/-- the tag is good for the one payload under the protected header -/
def Mac0Authentic (c : CoseMac0) (verifier : HmacSha256Key) (detached aad : Option Bytes) : Prop :=
  ∃ payload, onePayload c.payload detached = some payload ∧
    c.tag = verifier.tag (Coset.macStructureData .coseMac0 c.protectedHeader (aad.getD []) payload)

theorem verify_success_iff {S : Type} (c : MaybeTagged CoseSign1) (verifier : Verifier S)
    (detached aad : Option Bytes) :
    verify c verifier detached aad = .success ↔
      (c.inner.protectedHeader.header.Compared →
        c.inner.protectedHeader.header.Allows verifier.algorithm) ∧
      Sign1Authentic c.inner verifier detached aad := by
  rw [verify_eq_success, algorithmMismatch_eq_false_iff]
  refine and_congr_right fun _ => exists_congr fun payload => ?_
  rw [exists_and_left]
  rfl

theorem Mac0.verify_success_iff (c : MaybeTagged CoseMac0) (verifier : HmacSha256Key)
    (detached aad : Option Bytes) :
    Mac0.verify c verifier detached aad = .success ↔
      (c.inner.protectedHeader.header.Compared →
        c.inner.protectedHeader.header.Allows .HMAC_256_256) ∧
      Mac0Authentic c.inner verifier detached aad := by
  rw [Mac0.verify_eq_success, algorithmMismatch_eq_false_iff]
  rfl

/-- an implication from what the check lets pass -/
theorem binds_iff {compared allowed authentic : Prop} (h : allowed → compared) :
    ((compared → allowed) ∧ authentic → allowed) ↔ (compared ∨ ¬ authentic) := by
  by_cases hc : compared
  · exact ⟨fun _ => .inl hc, fun _ hboth => hboth.1 hc⟩
  · constructor
    · intro himp
      exact .inr fun ha => hc (h (himp ⟨fun hc' => absurd hc' hc, ha⟩))
    · rintro (hc' | ha) ⟨-, ha'⟩
      · exact absurd hc' hc
      · exact absurd ha' ha

theorem sign1_binds_iff {S : Type} (c : MaybeTagged CoseSign1) (verifier : Verifier S)
    (detached aad : Option Bytes) :
    (verify c verifier detached aad = .success →
        c.inner.protectedHeader.header.Allows verifier.algorithm) ↔
      (c.inner.protectedHeader.header.Compared ∨
        ¬ Sign1Authentic c.inner verifier detached aad) := by
  rw [verify_success_iff]
  exact binds_iff Header.Allows.compared

theorem mac0_binds_iff (c : MaybeTagged CoseMac0) (verifier : HmacSha256Key)
    (detached aad : Option Bytes) :
    (Mac0.verify c verifier detached aad = .success →
        c.inner.protectedHeader.header.Allows .HMAC_256_256) ↔
      (c.inner.protectedHeader.header.Compared ∨
        ¬ Mac0Authentic c.inner verifier detached aad) := by
  rw [Mac0.verify_success_iff]
  exact binds_iff Header.Allows.compared

/-- a verifier that accepts anything -/
def acceptingVerifier (algorithm : Algorithm) : Verifier Unit where
  algorithm := algorithm
  tryFrom _ := .ok ()
  verify _ _ := .ok ()

/-- a signature under any header -/
def sign1Under (h : ProtectedHeader) : CoseSign1 := ⟨h, Header.empty, some [], []⟩

theorem sign1Under_authentic (h : ProtectedHeader) (algorithm : Algorithm) :
    Sign1Authentic (sign1Under h) (acceptingVerifier algorithm) none none :=
  ⟨[], rfl, (), rfl, rfl⟩

/-- a tag under any header -/
def mac0Under (h : ProtectedHeader) (key : HmacSha256Key) : CoseMac0 :=
  ⟨h, Header.empty, some [], key.tag (Coset.macStructureData .coseMac0 h [] [])⟩

theorem mac0Under_authentic (h : ProtectedHeader) (key : HmacSha256Key) :
    Mac0Authentic (mac0Under h key) key none none :=
  ⟨[], rfl, rfl⟩

/-- The algorithm of an accepted structure is bound where its label is assigned or missing.  Under
any other label every authentic structure is accepted, and each such header has one. -/
theorem verify_binds_algorithm_iff :
    (∀ (S : Type) (c : MaybeTagged CoseSign1) (verifier : Verifier S)
        (detached aad : Option Bytes),
      (verify c verifier detached aad = .success →
          c.inner.protectedHeader.header.Allows verifier.algorithm) ↔
        (c.inner.protectedHeader.header.Compared ∨
          ¬ Sign1Authentic c.inner verifier detached aad)) ∧
    (∀ (c : MaybeTagged CoseMac0) (verifier : HmacSha256Key) (detached aad : Option Bytes),
      (Mac0.verify c verifier detached aad = .success →
          c.inner.protectedHeader.header.Allows .HMAC_256_256) ↔
        (c.inner.protectedHeader.header.Compared ∨
          ¬ Mac0Authentic c.inner verifier detached aad)) ∧
    ∀ h : ProtectedHeader,
      ((∀ (S : Type) (c : MaybeTagged CoseSign1) (verifier : Verifier S)
          (detached aad : Option Bytes), c.inner.protectedHeader = h →
        verify c verifier detached aad = .success → h.header.Allows verifier.algorithm) ↔
          h.header.Compared) ∧
      ((∀ (c : MaybeTagged CoseMac0) (verifier : HmacSha256Key) (detached aad : Option Bytes),
          c.inner.protectedHeader = h → Mac0.verify c verifier detached aad = .success →
            h.header.Allows .HMAC_256_256) ↔ h.header.Compared) := by
  refine ⟨fun S => sign1_binds_iff, mac0_binds_iff, fun h => ⟨⟨?_, ?_⟩, ?_, ?_⟩⟩
  · intro hall
    have hbinds := (sign1_binds_iff ⟨false, sign1Under h⟩ (acceptingVerifier .ES256) none
      none).mp (hall Unit _ _ none none rfl)
    exact hbinds.resolve_right (not_not.mpr (sign1Under_authentic h .ES256))
  · rintro hcompared S c verifier detached aad rfl
    exact (sign1_binds_iff c verifier detached aad).mpr (.inl hcompared)
  · intro hall
    have hbinds := (mac0_binds_iff ⟨false, mac0Under h ⟨[]⟩⟩ ⟨[]⟩ none none).mp
      (hall _ _ none none rfl)
    exact hbinds.resolve_right (not_not.mpr (mac0Under_authentic h ⟨[]⟩))
  · rintro hcompared c verifier detached aad rfl
    exact (mac0_binds_iff c verifier detached aad).mpr (.inl hcompared)

end

open Cbor Reference

namespace AlgorithmBinding.Sample

/-- the protected header `{1: "none"}`, as it was decoded -/
def textHeader : ProtectedHeader where
  originalData := some [0xa1, 0x01, 0x64, 0x6e, 0x6f, 0x6e, 0x65]
  header := ⟨some (.text "none"), []⟩

def sign1 : MaybeTagged CoseSign1 where
  tagged := true
  inner :=
    { protectedHeader := textHeader
      unprotected := Header.empty
      payload := some [1, 2, 3]
      signature :=
        beBytes 32 0x17ef5757900194a4f071f6c7ccce99a3b51a266f99470665b074de578cb223b5 ++
        beBytes 32 0x71b8f994c127ba5dd8c4e7588c9114d07ca7f361073452bd78d1513f92914e71 }

/-- the key of a document signer -/
def key : Except String PublicKey := do
  let certificate ← X509Cert.fromDer signerDer
  publicKeyWithOid certificate Oid.SECP_256_R_1

def mac0 : MaybeTagged CoseMac0 := ⟨true, mac0Under textHeader ⟨[1, 2, 3]⟩⟩

end AlgorithmBinding.Sample

/-- Either verifier accepts a structure that names the algorithm `"none"`. -/
theorem verify_not_binds :
    (¬ ∀ (c : MaybeTagged CoseSign1) (S : Type) (verifier : Verifier S)
      (detached aad : Option Bytes), verify c verifier detached aad = .success →
        c.inner.protectedHeader.header.Allows verifier.algorithm) ∧
    ¬ ∀ (c : MaybeTagged CoseMac0) (verifier : HmacSha256Key) (detached aad : Option Bytes),
      Mac0.verify c verifier detached aad = .success →
        c.inner.protectedHeader.header.Allows .HMAC_256_256 := by
  constructor
  · intro h
    have hcheck : (AlgorithmBinding.Sample.key.toOption.any fun key =>
        verify AlgorithmBinding.Sample.sign1 (p256Verifier key) none none = .success) = true := by
      decide +kernel
    obtain ⟨key, -, hsuccess⟩ := exists_ok_of_any hcheck
    rcases h _ _ _ none none (of_decide_eq_true hsuccess) with halg | halg <;> cases halg
  · intro h
    have hsuccess : Mac0.verify AlgorithmBinding.Sample.mac0 ⟨[1, 2, 3]⟩ none none = .success := by
      decide +kernel
    rcases h _ _ none none hsuccess with halg | halg <;> cases halg

end Isomdl
