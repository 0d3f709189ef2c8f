import Isomdl.Lib.Machine

/-!
# HMAC and HKDF

For any hash and block length: a keyed hash, and the derivation of key material of any length from
it (RFC 5869), as extract and expand.

* `expand_hashLength`   one hash of key material is one keyed hash.
-/

namespace KeyedHash

section
variable (hash : Bytes → Bytes) (blockLength : Nat)

/-- the key in a block: hashed where it is too long, and zeros -/
def blockKey (key : Bytes) : Bytes :=
  let key := if blockLength < key.length then hash key else key
  key ++ List.replicate (blockLength - key.length) 0

def hmac (key message : Bytes) : Bytes :=
  let block := blockKey hash blockLength key
  hash (block.map (· ^^^ 0x5c) ++ hash (block.map (· ^^^ 0x36) ++ message))

def extract (salt inputKeyMaterial : Bytes) : Bytes := hmac hash blockLength salt inputKeyMaterial

/-- `T(i) | T(i + 1) | ...`, `n` of them, after `T(i - 1)` -/
def expandBlocks (prk info : Bytes) : Nat → Nat → Bytes → Bytes
  | 0, _, _ => []
  | n + 1, i, last =>
    let block := hmac hash blockLength prk (last ++ info ++ [UInt8.ofNat i])
    block ++ expandBlocks prk info n (i + 1) block

/-- `length` bytes, with a hash of `hashLength` bytes -/
def expand (hashLength : Nat) (prk info : Bytes) (length : Nat) : Bytes :=
  (expandBlocks hash blockLength prk info ((length + hashLength - 1) / hashLength) 1 []).take length

def hkdf (hashLength : Nat) (salt inputKeyMaterial info : Bytes) (length : Nat) : Bytes :=
  expand hash blockLength hashLength (extract hash blockLength salt inputKeyMaterial) info length

variable {hash blockLength}

/-- **One hash of key material is one keyed hash.** -/
theorem expand_hashLength {hashLength : Nat} (hpos : 0 < hashLength)
    (hlength : ∀ message, (hash message).length = hashLength) (prk info : Bytes) :
    expand hash blockLength hashLength prk info hashLength =
      hmac hash blockLength prk (info ++ [1]) := by
  have hcount : (hashLength + hashLength - 1) / hashLength = 1 := by
    rw [Nat.add_sub_assoc hpos, Nat.add_div_left _ hpos,
      Nat.div_eq_of_lt (Nat.sub_lt hpos Nat.zero_lt_one)]
  rw [expand, hcount, expandBlocks, expandBlocks, List.append_nil]
  apply List.take_of_length_le
  rw [hmac, hlength]

end

end KeyedHash
