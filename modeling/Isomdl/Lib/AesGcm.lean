import Isomdl.Lib.Machine

/-!
# AES-256 in Galois/counter mode

A block is a number of 128 bits, its first byte the highest; the substitution table is eight numbers
of 32 bytes each, the first byte the lowest.  `encrypt` works in counter mode and appends the tag,
and `decrypt` checks the tag first.

* `xorKeystream_twice`   counter mode undoes itself;
* `decrypt_encrypt`      what was encrypted decrypts.
-/

namespace Gcm

/-! ## the block cipher -/

def substitution : List Nat :=
  [0xc072a49cafa2d4adf04759fa7dc982ca76abd7fe2b670130c56f6bf27b777c63,
   0x75b227ebe28012079a059618c323c7041531d871f1e5a534ccf73f362693fdb7,
   0xcf584c4a39becb6a5bb1fc20ed00d153842fe329b3d63b52a05a6e1b1a2c8309,
   0xd2f3ff1021dab6bcf5389d928f40a351a89f3c507f02f94585334d43fbaaefd0,
   0xdb0b5ede14b8ee4688902a22dc4f816073195d643d7ea7c41744975fec130ccd,
   0x08ae7a65eaf4566ca94ed58d6d37c8e779e4959162acd3c25c2406490a3a32e0,
   0x9e1dc186b95735610ef6034866b53e708a8bbd4b1f74dde8c6b4a61c2e2578ba,
   0x16bb54b00f2d99416842e6bf0d89a18cdf2855cee9871e9b948ed9691198f8e1]

def subByte (b : Nat) : Nat := (substitution.getD (b / 32) 0 >>> (8 * (b % 32))) % 256

/-- the `i`-th byte of a block -/
def byteAt (s i : Nat) : Nat := (s >>> (8 * (15 - i))) % 256

/-- a block from its bytes -/
def ofBytes (f : Nat → Nat) : Nat :=
  (List.range 16).foldl (fun acc i => force (acc * 256 + f i) id) 0

def subShift (s : Nat) : Nat := ofBytes fun i => subByte (byteAt s ((i + 4 * (i % 4)) % 16))

def double (b : Nat) : Nat := if b < 128 then 2 * b else (2 * b) ^^^ 0x11b

def mixColumns (s : Nat) : Nat :=
  ofBytes fun i =>
    let a j := byteAt s (i / 4 * 4 + (i + j) % 4)
    double (a 0) ^^^ double (a 1) ^^^ a 1 ^^^ a 2 ^^^ a 3

def subWord (w : Nat) : Nat :=
  subByte (w >>> 24) <<< 24 ||| subByte (w >>> 16 % 256) <<< 16 |||
    subByte (w >>> 8 % 256) <<< 8 ||| subByte (w % 256)

def rotWord (w : Nat) : Nat := (w % 2 ^ 24) <<< 8 ||| w >>> 24

/-- the key words, newest first; `words` holds the first `i` of them -/
def expand : Nat → Nat → List Nat → List Nat
  | 0, _, words => words
  | n + 1, i, words =>
    let last := words.getD 0 0
    let mixed :=
      if i % 8 = 0 then subWord (rotWord last) ^^^ (2 ^ (i / 8 - 1) <<< 24)
      else if i % 8 = 4 then subWord last
      else last
    force (words.getD 7 0 ^^^ mixed) fun w => expand n (i + 1) (w :: words)

/-- the fifteen round keys -/
def roundKeys (key : Bytes) : List Nat :=
  let first := (List.range 8).map fun i => ofBe ((key.drop (4 * i)).take 4)
  let words := (expand 52 8 first.reverse).reverse
  (List.range 15).map fun i =>
    ((words.drop (4 * i)).take 4).foldl (fun acc w => force (acc * 2 ^ 32 + w) id) 0

def encryptRounds : List Nat → Nat → Nat
  | [], s => s
  | [k], s => force (subShift s) fun s => s ^^^ k
  | k :: ks, s => force (subShift s) fun s => force (mixColumns s ^^^ k) fun s => encryptRounds ks s

def encryptBlock (keys : List Nat) (s : Nat) : Nat :=
  match keys with
  | [] => s
  | k :: ks => force (s ^^^ k) fun s => encryptRounds ks s

/-! ## the authenticator -/

/-- the product in the field, from bit `n` of `x` down -/
def multiplyFrom : Nat → Nat → Nat → Nat → Nat
  | 0, _, z, _ => z
  | n + 1, x, z, v =>
    force (if (x >>> n) % 2 = 1 then z ^^^ v else z) fun z =>
    force (if v % 2 = 1 then (v >>> 1) ^^^ (0xe1 <<< 120) else v >>> 1) fun v =>
    multiplyFrom n x z v

def multiply (x y : Nat) : Nat := multiplyFrom 128 x 0 y

def ghash (h : Nat) (blocks : List Nat) : Nat :=
  blocks.foldl (fun y block => force (y ^^^ block) fun y => force (multiply y h) id) 0

/-- the blocks of a text, the last one filled with zeros -/
def blocks (text : Bytes) : List Nat :=
  (List.range ((text.length + 15) / 16)).map fun i =>
    let block := (text.drop (16 * i)).take 16
    ofBe block * 256 ^ (16 - block.length)

/-! ## the mode -/

section
variable (key nonce : Bytes)

/-- the encrypted counter blocks from count `first` on -/
def counterBlock (keys : List Nat) (count : Nat) : Nat :=
  encryptBlock keys (ofBe nonce * 2 ^ 32 + count)

def keystream (n : Nat) : Bytes :=
  let keys := roundKeys key
  (List.range n).map fun i =>
    UInt8.ofNat (byteAt (counterBlock nonce keys (i / 16 + 2)) (i % 16))

def xorKeystream (text : Bytes) : Bytes :=
  List.zipWith (· ^^^ ·) text (keystream key nonce text.length)

def tag (ciphertext : Bytes) : Bytes :=
  let keys := roundKeys key
  let h := encryptBlock keys 0
  beBytes 16 (ghash h (blocks ciphertext ++ [8 * ciphertext.length]) ^^^ counterBlock nonce keys 1)

def encrypt (plaintext : Bytes) : Bytes :=
  let ciphertext := xorKeystream key nonce plaintext
  ciphertext ++ tag key nonce ciphertext

def decrypt (message : Bytes) : Option Bytes :=
  let ciphertext := message.take (message.length - 16)
  if message.length < 16 then none
  else if tag key nonce ciphertext = message.drop (message.length - 16) then
    some (xorKeystream key nonce ciphertext)
  else none

theorem length_keystream (n : Nat) : (keystream key nonce n).length = n := by
  rw [keystream, List.length_map, List.length_range]

theorem length_xorKeystream (text : Bytes) : (xorKeystream key nonce text).length = text.length := by
  rw [xorKeystream, List.length_zipWith, length_keystream, Nat.min_self]

/-- **Counter mode undoes itself.** -/
theorem xorKeystream_twice (text : Bytes) :
    xorKeystream key nonce (xorKeystream key nonce text) = text := by
  have hzip (l ks : Bytes) (h : l.length ≤ ks.length) :
      List.zipWith (· ^^^ ·) (List.zipWith (· ^^^ ·) l ks) ks = l := by
    induction l generalizing ks with
    | nil => rfl
    | cons b l ih =>
      cases ks with
      | nil => exact absurd h (Nat.not_succ_le_zero _)
      | cons k ks =>
        rw [List.zipWith_cons_cons, List.zipWith_cons_cons, ih ks (Nat.le_of_succ_le_succ h),
          UInt8.xor_assoc, UInt8.xor_self, UInt8.xor_zero]
  rw [xorKeystream, length_xorKeystream]
  exact hzip text _ (by rw [length_keystream])

/-- **What was encrypted decrypts.** -/
theorem decrypt_encrypt (plaintext : Bytes) :
    decrypt key nonce (encrypt key nonce plaintext) = some plaintext := by
  have htag (c : Bytes) : (tag key nonce c).length = 16 := length_beBytes 16 _
  have hlength :
      (encrypt key nonce plaintext).length - 16 = (xorKeystream key nonce plaintext).length := by
    rw [encrypt, List.length_append, htag, Nat.add_sub_cancel]
  have hlong : ¬ (encrypt key nonce plaintext).length < 16 := by
    rw [encrypt, List.length_append, htag]
    omega
  unfold decrypt
  dsimp only
  rw [if_neg hlong, hlength, encrypt, List.take_left, List.drop_left, if_pos rfl, xorKeystream_twice]

end

end Gcm
