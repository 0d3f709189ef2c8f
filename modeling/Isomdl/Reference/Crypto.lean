import Isomdl.Definitions.SessionCrypto
import Isomdl.Lib.AesGcm
import Isomdl.Lib.Weierstrass
import Isomdl.Reference
import Isomdl.X509.Certificate

/-!
# Concrete cryptographic crates

The instances that evaluate keys, signatures and sessions: the curves of `Weierstrass`, AES-256-GCM,
HKDF over the HMAC of the session keys, and URL-safe base64 without padding.

* `decode_encode`    the base64 decoder reads what the encoder writes;
* `hkdf_expand`      an output of at most 255 hashes is always derived.
-/

namespace Isomdl

namespace Reference

/-! ## DER -/

/-- a definite length in the least number of bytes, and what follows it -/
def readLength : Bytes → Option (Nat × Bytes)
  | [] => none
  | b :: bytes =>
    let size := b.toNat - 0x80
    let n := ofBe (bytes.take size)
    if b < 0x80 then some (b.toNat, bytes)
    else if bytes.length < size ∨ n < 0x80 ∨ n < 256 ^ (size - 1) then none
    else some (n, bytes.drop size)

/-- a tag with its content, and what follows it -/
def readElement : Bytes → Option ((UInt8 × Bytes) × Bytes)
  | [] => none
  | tag :: bytes => do
    let (n, bytes) ← readLength bytes
    if bytes.length < n then none else some ((tag, bytes.take n), bytes.drop n)

/-- at most `n` elements, one after the other -/
def readElements : Nat → Bytes → Option (List (UInt8 × Bytes))
  | _, [] => some []
  | 0, _ :: _ => none
  | n + 1, b :: bytes => do
    let (element, bytes) ← readElement (b :: bytes)
    let elements ← readElements n bytes
    some (element :: elements)

/-- the elements of a constructed content -/
def elements (bytes : Bytes) : Option (List (UInt8 × Bytes)) := readElements bytes.length bytes

/-- a single element with the given tag -/
def element (tag : UInt8) (bytes : Bytes) : Option Bytes :=
  match readElement bytes with
  | some ((t, content), []) => if t = tag then some content else none
  | _ => none

/-! ## elliptic curves -/

section
variable (c : Weierstrass.Curve)

def point (x y : Nat) : EcPoint c.size :=
  ⟨⟨beBytes c.size x, length_beBytes c.size x⟩, ⟨beBytes c.size y, length_beBytes c.size y⟩⟩

def signatureOfSlice (bytes : Bytes) : Except String {b : Bytes // b.length = 2 * c.size} :=
  if h : bytes.length = 2 * c.size then
    if (Weierstrass.decodeSignature c bytes).isSome then .ok ⟨bytes, h⟩ else .error "signature error"
  else .error "signature error"

def verify (key : EcPoint c.size) (digest : Bytes) (signature : Bytes) : Except String Unit :=
  match Weierstrass.decodeSignature c signature with
  | none => .error "signature error"
  | some signature =>
    if Weierstrass.verify c (ofBe key.x.1, ofBe key.y.1) digest signature then .ok ()
    else .error "signature error"

end

/-- the key of a point that has coordinates -/
def publicKeyOfPoint (q : Weierstrass.Point) : PublicKey :=
  let (x, y) := (Weierstrass.affine Weierstrass.p256 q).getD (0, 0)
  ⟨(point Weierstrass.p256 x y).x, (point Weierstrass.p256 x y).y⟩

/-- `SEQUENCE { r INTEGER, s INTEGER }` -/
def signatureOfDer (bytes : Bytes) : Option Bytes := do
  let content ← element 0x30 bytes
  match ← elements content with
  | [(0x02, r), (0x02, s)] => some (beBytes 32 (ofBe r) ++ beBytes 32 (ofBe s))
  | _ => none

scoped instance p256 : P256 where
  publicKey k :=
    publicKeyOfPoint (Weierstrass.mul Weierstrass.p256 k.1 (Weierstrass.base Weierstrass.p256))
  fromSec1Point bytes := (Weierstrass.decodePoint Weierstrass.p256 bytes).map fun q =>
    ⟨(point Weierstrass.p256 q.1 q.2).x, (point Weierstrass.p256 q.1 q.2).y⟩
  diffieHellman k key :=
    (publicKeyOfPoint (Weierstrass.mul Weierstrass.p256 k.1 ⟨ofBe key.x.1, ofBe key.y.1, 1⟩)).x
  signatureFromSlice := signatureOfSlice Weierstrass.p256
  signatureFromDer bytes :=
    match signatureOfDer bytes with
    | some bytes => signatureOfSlice Weierstrass.p256 bytes
    | none => .error "signature error"
  verifyPrehashed key digest signature := verify Weierstrass.p256 ⟨key.x, key.y⟩ digest signature.1

scoped instance p384 : P384 where
  fromSec1Point bytes := (Weierstrass.decodePoint Weierstrass.p384 bytes).map fun q =>
    point Weierstrass.p384 q.1 q.2
  signatureFromSlice := signatureOfSlice Weierstrass.p384
  verifyPrehashed key digest signature := verify Weierstrass.p384 key digest signature.1

scoped instance p521 : P521 where
  fromSec1Point bytes := (Weierstrass.decodePoint Weierstrass.p521 bytes).map fun q =>
    point Weierstrass.p521 q.1 q.2
  signatureFromSlice := signatureOfSlice Weierstrass.p521
  verifyPrehashed key digest signature := verify Weierstrass.p521 key digest signature.1

/-! ## AES-256-GCM -/

scoped instance lawfulAesGcm : LawfulAesGcm where
  encryptWithBackend key nonce plaintext := some (Gcm.encrypt key.1 nonce.1 plaintext)
  decryptWithBackend key nonce message := Gcm.decrypt key.1 nonce.1 message
  decrypt_encrypt {key nonce plaintext ciphertext} h := by
    cases h
    exact Gcm.decrypt_encrypt key.1 nonce.1 plaintext

/-! ## HKDF -/

/-- `n` hashes of the output, from number `i` on, after `last` -/
def hkdfBlocks (prk info : Bytes) : Nat → Nat → Bytes → Bytes
  | 0, _, _ => []
  | n + 1, i, last =>
    let block := hmacSha256Into prk [last, info, [UInt8.ofNat i]]
    block ++ hkdfBlocks prk info n (i + 1) block

theorem length_hkdfBlocks (prk info : Bytes) (n i : Nat) (last : Bytes) :
    (hkdfBlocks prk info n i last).length = 32 * n := by
  induction n generalizing i last with
  | zero => rfl
  | succ n ih =>
    rw [hkdfBlocks, List.length_append, ih, length_hmacSha256Into]
    omega

scoped instance hkdf : Hkdf where
  expand salt ikm info n :=
    let okm := hkdfBlocks (hmacSha256Into (salt.getD []) [ikm]) info ((n + 31) / 32) 1 []
    if n ≤ 255 * 32 then
      .ok ⟨okm.take n, by
        rw [List.length_take, length_hkdfBlocks]
        omega⟩
    else .error "invalid number of blocks, too large output"

/-- **An output of at most 255 hashes is always derived.** -/
theorem hkdf_expand {n : Nat} (h : n ≤ 255 * 32) (salt : Option Bytes) (ikm info : Bytes) :
    ∃ okm, Hkdf.expand salt ikm info n = .ok okm := ⟨_, if_pos h⟩

/-! ## base64 -/

def alphabet : List Char := "ABCDEFGHIJKLMNOPQRSTUVWXYZabcdefghijklmnopqrstuvwxyz0123456789-_".toList

def sextet (i : Nat) : Char := alphabet.getD i 'A'

def sextetValue (c : Char) : Option Nat := alphabet.idxOf? c

def encodeSextets : Bytes → List Char
  | [] => []
  | [a] => [sextet (a.toNat / 4), sextet (a.toNat % 4 * 16)]
  | [a, b] =>
    [sextet (a.toNat / 4), sextet (a.toNat % 4 * 16 + b.toNat / 16), sextet (b.toNat % 16 * 4)]
  | a :: b :: c :: bytes =>
    sextet (a.toNat / 4) :: sextet (a.toNat % 4 * 16 + b.toNat / 16) ::
      sextet (b.toNat % 16 * 4 + c.toNat / 64) :: sextet (c.toNat % 64) :: encodeSextets bytes

/-- the bytes of groups of four characters; the last one may miss one or two, whose bits are zero -/
def decodeSextets : List Char → Option Bytes
  | [] => some []
  | [_] => none
  | [w, x] => do
    let w ← sextetValue w
    let x ← sextetValue x
    if x % 16 = 0 then some [UInt8.ofNat (w * 4 + x / 16)] else none
  | [w, x, y] => do
    let w ← sextetValue w
    let x ← sextetValue x
    let y ← sextetValue y
    if y % 4 = 0 then some [UInt8.ofNat (w * 4 + x / 16), UInt8.ofNat (x % 16 * 16 + y / 4)] else none
  | w :: x :: y :: z :: chars => do
    let w ← sextetValue w
    let x ← sextetValue x
    let y ← sextetValue y
    let z ← sextetValue z
    let bytes ← decodeSextets chars
    some (UInt8.ofNat (w * 4 + x / 16) :: UInt8.ofNat (x % 16 * 16 + y / 4) ::
      UInt8.ofNat (y % 4 * 64 + z) :: bytes)

theorem sextetValue_sextet {i : Nat} (h : i < 64) : sextetValue (sextet i) = some i := by
  have hall : ∀ j : Fin 64, sextetValue (sextet j) = some j.1 := by decide +kernel
  exact hall ⟨i, h⟩

theorem ofNat_eq {n : Nat} {b : UInt8} (h : n = b.toNat) : UInt8.ofNat n = b := by
  rw [h, UInt8.ofNat_toNat]

theorem decodeSextets_encodeSextets (bytes : Bytes) :
    decodeSextets (encodeSextets bytes) = some bytes := by
  induction bytes using encodeSextets.induct with
  | case1 => rfl
  | case2 a =>
    have ha := a.toNat_lt
    rw [encodeSextets, decodeSextets, sextetValue_sextet (by omega), sextetValue_sextet (by omega)]
    show (if a.toNat % 4 * 16 % 16 = 0 then _ else _) = _
    rw [if_pos (by omega), ofNat_eq (b := a) (by omega)]
  | case3 a b =>
    have ha := a.toNat_lt
    have hb := b.toNat_lt
    rw [encodeSextets, decodeSextets, sextetValue_sextet (by omega), sextetValue_sextet (by omega),
      sextetValue_sextet (by omega)]
    show (if b.toNat % 16 * 4 % 4 = 0 then _ else _) = _
    rw [if_pos (by omega), ofNat_eq (b := a) (by omega), ofNat_eq (b := b) (by omega)]
  | case4 a b c bytes ih =>
    have ha := a.toNat_lt
    have hb := b.toNat_lt
    have hc := c.toNat_lt
    rw [encodeSextets, decodeSextets, sextetValue_sextet (by omega), sextetValue_sextet (by omega),
      sextetValue_sextet (by omega), sextetValue_sextet (by omega), ih]
    show some _ = _
    rw [ofNat_eq (b := a) (by omega), ofNat_eq (b := b) (by omega), ofNat_eq (b := c) (by omega)]

scoped instance lawfulBase64 : LawfulBase64 where
  encode bytes := String.ofList (encodeSextets bytes)
  decode s :=
    match decodeSextets s.toList with
    | some bytes => .ok bytes
    | none => .error "invalid base64"
  decode_encode bytes := by
    rw [String.toList_ofList, decodeSextets_encodeSextets]

/-! ## `time` -/

/-- the first of January 2027 -/
scoped instance clock : Clock where
  nowUtc := 1798761600

end Reference

end Isomdl
