import Isomdl.Lib.Machine

/-!
# Cryptographic crates

The crates behind keys, signatures and encryption are parameters: `p256` with `ecdsa` (`P256`),
AES-256-GCM without associated data (`AesGcm`), `hkdf` (`Hkdf`) and `base64` (`Base64`).  What
they guarantee is assumed where a result needs it, as a hypothesis or a lawful class.
-/

namespace Isomdl

/-! ## P-256 -/

/-- the order of the group -/
def P256.order : Nat := 0xffffffff00000000ffffffffffffffffbce6faada7179e84f3b9cac2fc632551

/-- `p256::SecretKey`, `p256::NonZeroScalar` -/
abbrev SecretKey := {k : Nat // 0 < k ∧ k < P256.order}

/-- `p256::PublicKey`: the affine coordinates of a point -/
@[ext] structure PublicKey where
  x : {b : Bytes // b.length = 32}
  y : {b : Bytes // b.length = 32}
  deriving DecidableEq

/-- `ecdsa::Signature<NistP256>` -/
abbrev Signature := {b : Bytes // b.length = 64}

/-- the `p256` and `ecdsa` crates -/
class P256 where
  publicKey : SecretKey → PublicKey
  /-- an encoded point of SEC1, uncompressed or compressed -/
  fromSec1Point : Bytes → Option PublicKey
  diffieHellman : SecretKey → PublicKey → {b : Bytes // b.length = 32}
  signatureFromSlice : Bytes → Except String Signature
  signatureFromDer : Bytes → Except String Signature
  verifyPrehashed : PublicKey → Bytes → Signature → Except String Unit

/-! ## P-384 and P-521 -/

/-- the affine coordinates of a point on a curve whose field elements take `n` bytes -/
structure EcPoint (n : Nat) where
  x : {b : Bytes // b.length = n}
  y : {b : Bytes // b.length = n}
  deriving DecidableEq

/-- the `p384` crate, as far as an issuer checks signatures with it -/
class P384 where
  fromSec1Point : Bytes → Option (EcPoint 48)
  signatureFromSlice : Bytes → Except String {b : Bytes // b.length = 96}
  verifyPrehashed : EcPoint 48 → Bytes → {b : Bytes // b.length = 96} → Except String Unit

/-- the `p521` crate, as far as an issuer checks signatures with it -/
class P521 where
  fromSec1Point : Bytes → Option (EcPoint 66)
  signatureFromSlice : Bytes → Except String {b : Bytes // b.length = 132}
  verifyPrehashed : EcPoint 66 → Bytes → {b : Bytes // b.length = 132} → Except String Unit

/-! ## AES-256-GCM -/

abbrev SessionKey := {b : Bytes // b.length = 32}
abbrev Nonce := {b : Bytes // b.length = 12}

/-- `encrypt_with_backend` and `decrypt_with_backend` -/
class AesGcm where
  encryptWithBackend : SessionKey → Nonce → Bytes → Option Bytes
  decryptWithBackend : SessionKey → Nonce → Bytes → Option Bytes

/-- what was encrypted opens under its key and nonce -/
class LawfulAesGcm extends AesGcm where
  decrypt_encrypt {key : SessionKey} {nonce : Nonce} {plaintext ciphertext : Bytes} :
    encryptWithBackend key nonce plaintext = some ciphertext →
      decryptWithBackend key nonce ciphertext = some plaintext

/-! ## HKDF and base64 -/

/-- `Hkdf::<Sha256>::new(salt, ikm).expand(info, okm)` for `okm` of length `n` -/
class Hkdf where
  expand (salt : Option Bytes) (ikm info : Bytes) (n : Nat) : Except String {b : Bytes // b.length = n}

/-- `encode_config_buf` and `decode_config` with the URL-safe alphabet and no padding -/
class Base64 where
  encode : Bytes → String
  decode : String → Except String Bytes

/-- what was encoded decodes -/
class LawfulBase64 extends Base64 where
  decode_encode (bytes : Bytes) : decode (encode bytes) = .ok bytes

end Isomdl
