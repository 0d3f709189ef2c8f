import Isomdl.Cose
import Isomdl.Definitions.SessionCrypto

/-!
# Tags of `COSE_Mac0` (`cose/mac0.rs`)

A tag is an HMAC-SHA-256 of the `MAC_structure`.

* `Mac0.verify_eq_success`   what an accepted tag says.
-/

namespace Isomdl

/-- the wrapper that the source wipes -/
structure HmacSha256Key where
  key : Bytes
  deriving DecidableEq, Repr

/-- `HmacSha256Key::tag` -/
def HmacSha256Key.tag (k : HmacSha256Key) (payload : Bytes) : Bytes :=
  hmacSha256Into k.key [payload]

/-- `HmacSha256Key::verify_payload` -/
def HmacSha256Key.verifyPayload (k : HmacSha256Key) (payload tag : Bytes) : Bool :=
  let output := hmacSha256Into k.key [payload]
  tag.length == output.length && output == tag

theorem HmacSha256Key.verifyPayload_iff {k : HmacSha256Key} {payload tag : Bytes} :
    k.verifyPayload payload tag = true ↔ tag = k.tag payload := by
  unfold verifyPayload HmacSha256Key.tag
  rw [Bool.and_eq_true, beq_iff_eq, beq_iff_eq]
  constructor
  · intro h
    exact h.2.symm
  · intro h
    exact ⟨congrArg List.length h, h.symm⟩

namespace Mac0

inductive VerificationResult where
  | success
  | failure (reason : String)
  | error (e : Error)
  deriving DecidableEq, Repr

section
variable [Coset]

/-- `MaybeTagged<CoseMac0>::verify` -/
def verify (c : MaybeTagged CoseMac0) (verifier : HmacSha256Key)
    (detachedPayload externalAad : Option Bytes) : VerificationResult :=
  if algorithmMismatch c.inner.protectedHeader.header .HMAC_256_256 then
    .failure "algorithm in protected headers did not match verifier's algorithm"
  else
    match c.inner.payload, detachedPayload with
    | none, none => .error .noPayload
    | some attached, none => check attached
    | none, some detached => check detached
    | some _, some _ => .error .doublePayload
where
  check (payload : Bytes) : VerificationResult :=
    let tagPayload :=
      Coset.macStructureData .coseMac0 c.inner.protectedHeader (externalAad.getD []) payload
    if verifier.verifyPayload tagPayload c.inner.tag then .success
    else .failure "tag is not authentic"

/-- **An accepted tag is the HMAC of the `MAC_structure` of the one payload.** -/
theorem verify_eq_success {c : MaybeTagged CoseMac0} {verifier : HmacSha256Key}
    {detached aad : Option Bytes} :
    verify c verifier detached aad = .success ↔
      algorithmMismatch c.inner.protectedHeader.header .HMAC_256_256 = false ∧
      ∃ payload, onePayload c.inner.payload detached = some payload ∧
        c.inner.tag = verifier.tag (Coset.macStructureData .coseMac0 c.inner.protectedHeader
          (aad.getD []) payload) := by
  have hcheck (payload : Bytes) : verify.check c verifier aad payload = .success ↔
      c.inner.tag = verifier.tag (Coset.macStructureData .coseMac0 c.inner.protectedHeader
        (aad.getD []) payload) := by
    rw [← HmacSha256Key.verifyPayload_iff]
    unfold verify.check
    dsimp only
    split
    · next h => exact ⟨fun _ => h, fun _ => rfl⟩
    · next h => exact ⟨fun heq => (by cases heq), fun hv => absurd hv h⟩
  unfold verify onePayload
  cases algorithmMismatch c.inner.protectedHeader.header .HMAC_256_256 with
  | true => simp
  | false => cases c.inner.payload <;> cases detached <;> simp [hcheck]

end

end Mac0

/-- **Preparing succeeds with exactly one payload.** -/
theorem PreparedCoseMac0.new_ok_iff [Coset] {c : CoseMac0} {detached aad : Option Bytes}
    {tagged : Bool} {p : PreparedCoseMac0} :
    PreparedCoseMac0.new c detached aad tagged = .ok p ↔
      ∃ payload, onePayload c.payload detached = some payload ∧
        p = ⟨⟨tagged, c⟩,
          Coset.macStructureData .coseMac0 c.protectedHeader (aad.getD []) payload⟩ := by
  unfold PreparedCoseMac0.new onePayload
  cases c.payload <;> cases detached <;> simp [eq_comm]

end Isomdl
