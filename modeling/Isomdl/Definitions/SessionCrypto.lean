import Isomdl.Lib.Sha2

/-!
# HMAC and HKDF of the session keys (`definitions/session_crypto.rs`)

What the functions compute.  The hash update by update is in `Definitions.SessionCrypto.Streaming`,
and the buffers that the functions borrow and wipe are in `Definitions.SessionCrypto.Scratch`.
-/

namespace Isomdl

/-- `SecureSha256`: `new`, one `update` for each part, `finish` -/
def secureSha256 (parts : List Bytes) : Bytes := SecureHash.sha256 parts.flatten

def SHA256_BLOCK_BYTES : Nat := 64

/-- the key block: a long key hashed, a short one as it is, and zeros -/
def keyBlock (key : Bytes) : Bytes :=
  let key := if SHA256_BLOCK_BYTES < key.length then secureSha256 [key] else key
  key ++ List.replicate (SHA256_BLOCK_BYTES - key.length) 0

/-- `hmac_sha256_into` -/
def hmacSha256Into (key : Bytes) (messageParts : List Bytes) : Bytes :=
  let block := (keyBlock key).map (· ^^^ 0x36)
  let innerDigest := secureSha256 (block :: messageParts)
  let block := block.map (· ^^^ (0x36 ^^^ 0x5c))
  secureSha256 [block, innerDigest]

theorem length_hmacSha256Into (key : Bytes) (messageParts : List Bytes) :
    (hmacSha256Into key messageParts).length = 32 := SecureHash.length_sha256 _

/-- `hkdf_sha256_32_with_scratch` -/
def hkdfSha256_32 (inputKeyMaterial salt info : Bytes) : {b : Bytes // b.length = 32} :=
  let prk := hmacSha256Into salt [inputKeyMaterial]
  ⟨hmacSha256Into prk [info, [1]], length_hmacSha256Into _ _⟩

end Isomdl
