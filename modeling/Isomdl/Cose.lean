import Isomdl.Cbor

/-!
# COSE structures and their signature payloads (`cose.rs`, `cose/sign1.rs`, `cose/mac0.rs`)

The `coset` crate is a parameter where it fixes bytes: its `Sig_structure` and `MAC_structure`,
and the data items of `CoseSign1` and `CoseMac0`.  The headers and structures, and the
repository's preparation and verification of them, are modelled.

* `PreparedCoseSign1.new_ok_iff`   preparing succeeds with exactly one payload;
* `verify_eq_success`              what an accepted signature says.
-/

namespace Isomdl

open Cbor

/-- `coset::iana::Algorithm`: the algorithms the code names, and the rest by their number -/
inductive Algorithm where
  | ES256
  | ES384
  | ES512
  | EdDSA
  | HMAC_256_256
  | other (id : Int)
  deriving DecidableEq, Repr

/-- `coset::RegisteredLabelWithPrivate<Algorithm>` -/
inductive AlgorithmLabel where
  | privateUse (id : Int)
  | assigned (algorithm : Algorithm)
  | text (name : String)
  deriving DecidableEq, Repr

/-- `coset::Label` -/
inductive Label where
  | int (i : Int)
  | text (s : String)
  deriving DecidableEq, Repr

/-- `coset::Header`: the algorithm, and every other parameter in `rest` -/
structure Header where
  alg : Option AlgorithmLabel
  rest : List (Label × Value)
  deriving DecidableEq

def Header.empty : Header := ⟨none, []⟩

/-- `HeaderBuilder::new().algorithm(alg).build()` -/
def Header.ofAlgorithm (alg : Algorithm) : Header := ⟨some (.assigned alg), []⟩

/-- a protected header, with its bytes when it was decoded -/
structure ProtectedHeader where
  originalData : Option Bytes
  header : Header
  deriving DecidableEq

structure CoseSign1 where
  protectedHeader : ProtectedHeader
  unprotected : Header
  payload : Option Bytes
  signature : Bytes
  deriving DecidableEq

structure CoseMac0 where
  protectedHeader : ProtectedHeader
  unprotected : Header
  payload : Option Bytes
  tag : Bytes
  deriving DecidableEq

/-- the signature context the code uses -/
inductive SignatureContext where
  | coseSign1
  deriving DecidableEq, Repr

/-- the MAC context the code uses -/
inductive MacContext where
  | coseMac0
  deriving DecidableEq, Repr

/-- the `coset` crate: `sig_structure_data(context, body, sign, aad, payload)`,
`mac_structure_data(context, protected, aad, payload)` and `AsCborValue` -/
class Coset where
  sigStructureData :
    SignatureContext → ProtectedHeader → Option ProtectedHeader → Bytes → Bytes → Bytes
  macStructureData : MacContext → ProtectedHeader → Bytes → Bytes → Bytes
  sign1ToCborValue : CoseSign1 → Except String Value
  sign1FromCborValue : Value → Except String CoseSign1
  mac0ToCborValue : CoseMac0 → Except String Value
  mac0FromCborValue : Value → Except String CoseMac0

/-! ## `cose.rs` -/

structure MaybeTagged (T : Type) where
  tagged : Bool
  inner : T
  deriving DecidableEq

/-- the `Serialize` implementation: the tag `TAG`, when tagged -/
def MaybeTagged.toCbor {T : Type} (TAG : UInt64) (toCborValue : T → Except String Value)
    (c : MaybeTagged T) : Except String Value :=
  (fun v => if c.tagged then .tag TAG v else v) <$> toCborValue c.inner

/-- the `Deserialize` implementation: no tag, or the tag `TAG` -/
def MaybeTagged.ofCbor {T : Type} (TAG : UInt64) (fromCborValue : Value → Except String T) :
    Value → Except String (MaybeTagged T)
  | .tag t v => do
    let inner ← fromCborValue v
    if t = TAG then .ok ⟨true, inner⟩ else .error "unexpected tag"
  | v => (⟨false, ·⟩) <$> fromCborValue v

instance [Coset] : Serialize (MaybeTagged CoseSign1) := ⟨MaybeTagged.toCbor 18 Coset.sign1ToCborValue⟩
instance [Coset] : Deserialize (MaybeTagged CoseSign1) :=
  ⟨MaybeTagged.ofCbor 18 Coset.sign1FromCborValue⟩
instance [Coset] : Serialize (MaybeTagged CoseMac0) := ⟨MaybeTagged.toCbor 17 Coset.mac0ToCborValue⟩
instance [Coset] : Deserialize (MaybeTagged CoseMac0) := ⟨MaybeTagged.ofCbor 17 Coset.mac0FromCborValue⟩

/-! ## `cose/sign1.rs` -/

namespace Sign1

inductive Error where
  | doublePayload
  | noPayload
  | malformedSignature (e : String)
  deriving DecidableEq, Repr

def Error.display : Error → String
  | .doublePayload =>
    "the COSE_Sign1 has an attached payload but an detached payload was provided"
  | .noPayload => "the COSE_Sign1 has a detached payload which was not provided"
  | .malformedSignature e =>
    "signature did not match the structure expected by the verifier: " ++ e

end Sign1

inductive VerificationResult where
  | success
  | failure (reason : String)
  | error (e : Sign1.Error)
  deriving DecidableEq, Repr

def VerificationResult.intoResult : VerificationResult → Except String Unit
  | .success => .ok ()
  | .failure reason => .error reason
  | .error e => .error e.display

/-- `V: Verifier<S> + SignatureAlgorithm` with `S: TryFrom<&[u8]>` -/
structure Verifier (S : Type) where
  algorithm : Algorithm
  tryFrom : Bytes → Except String S
  verify : Bytes → S → Except String Unit

structure PreparedCoseSign1 where
  coseSign1 : MaybeTagged CoseSign1
  signaturePayload : Bytes
  deriving DecidableEq

section
variable [Coset]

/-- `PreparedCoseSign1::new`, on the `CoseSign1` that the builder builds -/
def PreparedCoseSign1.new (coseSign1 : CoseSign1) (detachedPayload aad : Option Bytes)
    (tagged : Bool) : Except Sign1.Error PreparedCoseSign1 :=
  let prepare payload := .ok
    { coseSign1 := ⟨tagged, coseSign1⟩
      signaturePayload := Coset.sigStructureData .coseSign1 coseSign1.protectedHeader none
        (aad.getD []) payload }
  match coseSign1.payload, detachedPayload with
  | some _, some _ => .error .doublePayload
  | none, none => .error .noPayload
  | some payload, none => prepare payload
  | none, some payload => prepare payload

def PreparedCoseSign1.finalize (p : PreparedCoseSign1) (signature : Bytes) :
    MaybeTagged CoseSign1 :=
  { p.coseSign1 with inner := { p.coseSign1.inner with signature := signature } }

/-- an algorithm label that is assigned must be the verifier's; any other label is not compared -/
def algorithmMismatch (header : Header) (algorithm : Algorithm) : Bool :=
  match header.alg with
  | some (.assigned alg) => algorithm != alg
  | _ => false

/-- `MaybeTagged<CoseSign1>::verify` -/
def verify {S : Type} (c : MaybeTagged CoseSign1) (verifier : Verifier S)
    (detachedPayload externalAad : Option Bytes) : VerificationResult :=
  if algorithmMismatch c.inner.protectedHeader.header verifier.algorithm then
    .failure "algorithm in protected headers did not match verifier's algorithm"
  else
    match c.inner.payload, detachedPayload with
    | none, none => .error .noPayload
    | some _, some _ => .error .doublePayload
    | some payload, none => check payload
    | none, some payload => check payload
where
  check (payload : Bytes) : VerificationResult :=
    match verifier.tryFrom c.inner.signature with
    | .error e => .error (.malformedSignature e)
    | .ok signature =>
      match verifier.verify (Coset.sigStructureData .coseSign1 c.inner.protectedHeader none
          (externalAad.getD []) payload) signature with
      | .ok () => .success
      | .error e => .failure ("signature is not authentic: " ++ e)

/-- the one payload of a signature, attached or detached -/
def onePayload (attached detached : Option Bytes) : Option Bytes :=
  match attached, detached with
  | some payload, none => some payload
  | none, some payload => some payload
  | _, _ => none

omit [Coset] in
theorem onePayload_none {attached : Option Bytes} : onePayload attached none = attached := by
  cases attached <;> rfl

theorem PreparedCoseSign1.new_ok_iff {c : CoseSign1} {detached aad : Option Bytes} {tagged : Bool}
    {p : PreparedCoseSign1} :
    PreparedCoseSign1.new c detached aad tagged = .ok p ↔
      ∃ payload, onePayload c.payload detached = some payload ∧
        p = ⟨⟨tagged, c⟩,
          Coset.sigStructureData .coseSign1 c.protectedHeader none (aad.getD []) payload⟩ := by
  unfold PreparedCoseSign1.new onePayload
  cases c.payload <;> cases detached <;> simp [eq_comm]

/-- **An accepted signature verifies over the `Sig_structure` of the one payload.** -/
theorem verify_eq_success {S : Type} {c : MaybeTagged CoseSign1} {verifier : Verifier S}
    {detached aad : Option Bytes} :
    verify c verifier detached aad = .success ↔
      algorithmMismatch c.inner.protectedHeader.header verifier.algorithm = false ∧
      ∃ payload signature, onePayload c.inner.payload detached = some payload ∧
        verifier.tryFrom c.inner.signature = .ok signature ∧
        verifier.verify (Coset.sigStructureData .coseSign1 c.inner.protectedHeader none
          (aad.getD []) payload) signature = .ok () := by
  have hcheck (payload : Bytes) : verify.check c verifier aad payload = .success ↔
      ∃ signature, verifier.tryFrom c.inner.signature = .ok signature ∧
        verifier.verify (Coset.sigStructureData .coseSign1 c.inner.protectedHeader none
          (aad.getD []) payload) signature = .ok () := by
    unfold verify.check
    cases verifier.tryFrom c.inner.signature with
    | error e => simp
    | ok signature =>
      cases hv : verifier.verify (Coset.sigStructureData .coseSign1 c.inner.protectedHeader none
        (aad.getD []) payload) signature <;> simp [hv]
  unfold verify onePayload
  cases algorithmMismatch c.inner.protectedHeader.header verifier.algorithm with
  | true => simp
  | false => cases c.inner.payload <;> cases detached <;> simp [hcheck]

/-! ## `cose/mac0.rs` -/

namespace Mac0

inductive Error where
  | doublePayload
  | noPayload
  deriving DecidableEq, Repr

end Mac0

structure PreparedCoseMac0 where
  coseMac0 : MaybeTagged CoseMac0
  tagPayload : Bytes
  deriving DecidableEq

/-- `PreparedCoseMac0::new`, on the `CoseMac0` that the builder builds -/
def PreparedCoseMac0.new (coseMac0 : CoseMac0) (detachedPayload aad : Option Bytes)
    (tagged : Bool) : Except Mac0.Error PreparedCoseMac0 :=
  let prepare payload := .ok
    { coseMac0 := ⟨tagged, coseMac0⟩
      tagPayload := Coset.macStructureData .coseMac0 coseMac0.protectedHeader (aad.getD []) payload }
  match coseMac0.payload, detachedPayload with
  | some _, some _ => .error .doublePayload
  | none, none => .error .noPayload
  | some payload, none => prepare payload
  | none, some payload => prepare payload

def PreparedCoseMac0.finalize (p : PreparedCoseMac0) (tag : Bytes) : MaybeTagged CoseMac0 :=
  { p.coseMac0 with inner := { p.coseMac0.inner with tag := tag } }

end

end Isomdl
