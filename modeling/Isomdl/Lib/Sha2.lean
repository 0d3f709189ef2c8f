import Isomdl.Lib.Machine

/-!
# The secure hash algorithms

One compression function over words of `w` bits: SHA-256 is its 32-bit instance, SHA-384 and
SHA-512 are its 64-bit instances.  The constants of the 32-bit instance are the upper halves of
the 64-bit ones.
-/

namespace SecureHash

/-- a word size with its rotations -/
structure Variant (w : Nat) where
  rounds : Nat
  bigSigma0 : BitVec w → BitVec w
  bigSigma1 : BitVec w → BitVec w
  smallSigma0 : BitVec w → BitVec w
  smallSigma1 : BitVec w → BitVec w
  constants : List (BitVec w)

/-- the first 64 bits of the fractional parts of the cube roots of the first 80 primes -/
def cubeRoots : List Nat :=
  [0x428a2f98d728ae22, 0x7137449123ef65cd, 0xb5c0fbcfec4d3b2f, 0xe9b5dba58189dbbc,
   0x3956c25bf348b538, 0x59f111f1b605d019, 0x923f82a4af194f9b, 0xab1c5ed5da6d8118,
   0xd807aa98a3030242, 0x12835b0145706fbe, 0x243185be4ee4b28c, 0x550c7dc3d5ffb4e2,
   0x72be5d74f27b896f, 0x80deb1fe3b1696b1, 0x9bdc06a725c71235, 0xc19bf174cf692694,
   0xe49b69c19ef14ad2, 0xefbe4786384f25e3, 0x0fc19dc68b8cd5b5, 0x240ca1cc77ac9c65,
   0x2de92c6f592b0275, 0x4a7484aa6ea6e483, 0x5cb0a9dcbd41fbd4, 0x76f988da831153b5,
   0x983e5152ee66dfab, 0xa831c66d2db43210, 0xb00327c898fb213f, 0xbf597fc7beef0ee4,
   0xc6e00bf33da88fc2, 0xd5a79147930aa725, 0x06ca6351e003826f, 0x142929670a0e6e70,
   0x27b70a8546d22ffc, 0x2e1b21385c26c926, 0x4d2c6dfc5ac42aed, 0x53380d139d95b3df,
   0x650a73548baf63de, 0x766a0abb3c77b2a8, 0x81c2c92e47edaee6, 0x92722c851482353b,
   0xa2bfe8a14cf10364, 0xa81a664bbc423001, 0xc24b8b70d0f89791, 0xc76c51a30654be30,
   0xd192e819d6ef5218, 0xd69906245565a910, 0xf40e35855771202a, 0x106aa07032bbd1b8,
   0x19a4c116b8d2d0c8, 0x1e376c085141ab53, 0x2748774cdf8eeb99, 0x34b0bcb5e19b48a8,
   0x391c0cb3c5c95a63, 0x4ed8aa4ae3418acb, 0x5b9cca4f7763e373, 0x682e6ff3d6b2b8a3,
   0x748f82ee5defb2fc, 0x78a5636f43172f60, 0x84c87814a1f0ab72, 0x8cc702081a6439ec,
   0x90befffa23631e28, 0xa4506cebde82bde9, 0xbef9a3f7b2c67915, 0xc67178f2e372532b,
   0xca273eceea26619c, 0xd186b8c721c0c207, 0xeada7dd6cde0eb1e, 0xf57d4f7fee6ed178,
   0x06f067aa72176fba, 0x0a637dc5a2c898a6, 0x113f9804bef90dae, 0x1b710b35131c471b,
   0x28db77f523047d84, 0x32caab7b40c72493, 0x3c9ebe0a15c9bebc, 0x431d67c49c100d4c,
   0x4cc5d4becb3e42b6, 0x597f299cfc657e2a, 0x5fcb6fab3ad6faec, 0x6c44198c4a475817]

/-- the first 64 bits of the fractional parts of the square roots of the first 16 primes -/
def squareRoots : List Nat :=
  [0x6a09e667f3bcc908, 0xbb67ae8584caa73b, 0x3c6ef372fe94f82b, 0xa54ff53a5f1d36f1,
   0x510e527fade682d1, 0x9b05688c2b3e6c1f, 0x1f83d9abfb41bd6b, 0x5be0cd19137e2179,
   0xcbbb9d5dc1059ed8, 0x629a292a367cd507, 0x9159015a3070dd17, 0x152fecd8f70e5939,
   0x67332667ffc00b31, 0x8eb44a8768581511, 0xdb0c2e0d64f98fa7, 0x47b5481dbefa4fa4]

def variant32 : Variant 32 where
  rounds := 64
  bigSigma0 x := x.rotateRight 2 ^^^ x.rotateRight 13 ^^^ x.rotateRight 22
  bigSigma1 x := x.rotateRight 6 ^^^ x.rotateRight 11 ^^^ x.rotateRight 25
  smallSigma0 x := x.rotateRight 7 ^^^ x.rotateRight 18 ^^^ x >>> 3
  smallSigma1 x := x.rotateRight 17 ^^^ x.rotateRight 19 ^^^ x >>> 10
  constants := (cubeRoots.take 64).map fun k => BitVec.ofNat 32 (k / 2 ^ 32)

def variant64 : Variant 64 where
  rounds := 80
  bigSigma0 x := x.rotateRight 28 ^^^ x.rotateRight 34 ^^^ x.rotateRight 39
  bigSigma1 x := x.rotateRight 14 ^^^ x.rotateRight 18 ^^^ x.rotateRight 41
  smallSigma0 x := x.rotateRight 1 ^^^ x.rotateRight 8 ^^^ x >>> 7
  smallSigma1 x := x.rotateRight 19 ^^^ x.rotateRight 61 ^^^ x >>> 6
  constants := cubeRoots.map fun k => BitVec.ofNat 64 k

/-- the eight working variables -/
structure State (w : Nat) where
  a : BitVec w
  b : BitVec w
  c : BitVec w
  d : BitVec w
  e : BitVec w
  f : BitVec w
  g : BitVec w
  h : BitVec w

namespace State
variable {w : Nat}

def ofWords : List Nat → State w
  | [a, b, c, d, e, f, g, h] =>
    ⟨BitVec.ofNat w a, BitVec.ofNat w b, BitVec.ofNat w c, BitVec.ofNat w d, BitVec.ofNat w e,
      BitVec.ofNat w f, BitVec.ofNat w g, BitVec.ofNat w h⟩
  | _ => ⟨0, 0, 0, 0, 0, 0, 0, 0⟩

def words (s : State w) : List (BitVec w) := [s.a, s.b, s.c, s.d, s.e, s.f, s.g, s.h]

def add (s t : State w) : State w :=
  ⟨s.a + t.a, s.b + t.b, s.c + t.c, s.d + t.d, s.e + t.e, s.f + t.f, s.g + t.g, s.h + t.h⟩

def toBytes (s : State w) : Bytes := s.words.flatMap fun x => beBytes (w / 8) x.toNat

end State

section
variable {w : Nat} (v : Variant w)

/-- one round with constant `k` and schedule word `x` -/
def round (s : State w) (k x : BitVec w) : State w :=
  let t₁ := s.h + v.bigSigma1 s.e + ((s.e &&& s.f) ^^^ (~~~s.e &&& s.g)) + k + x
  let t₂ := v.bigSigma0 s.a + ((s.a &&& s.b) ^^^ (s.a &&& s.c) ^^^ (s.b &&& s.c))
  ⟨t₁ + t₂, s.a, s.b, s.c, s.d + t₁, s.e, s.f, s.g⟩

/-- the message schedule: the last sixteen words, newest first, give the next one -/
def schedule : Nat → List (BitVec w) → List (BitVec w)
  | 0, recent => recent
  | n + 1, recent =>
    schedule n ((v.smallSigma1 (recent.getD 1 0) + recent.getD 6 0 +
      v.smallSigma0 (recent.getD 14 0) + recent.getD 15 0) :: recent)

def compress (s : State w) (block : List (BitVec w)) : State w :=
  let ws := (schedule v (v.rounds - 16) block.reverse).reverse
  s.add ((v.constants.zip ws).foldl (fun s p => round v s p.1 p.2) s)

/-- `n` bytes at a time -/
def chunks (n : Nat) (bs : Bytes) : List Bytes :=
  (List.range (bs.length / n)).map fun i => (bs.drop (i * n)).take n

/-- a one, zeros, and the length in bits, up to a multiple of the block -/
def pad (w : Nat) (message : Bytes) : Bytes :=
  let block := 2 * w
  let tail := w / 4
  message ++ 0x80 ::
    List.replicate ((2 * block - (message.length + 1 + tail) % block) % block) 0 ++
    beBytes tail (8 * message.length)

def digest (initial : State w) (message : Bytes) : State w :=
  ((chunks (2 * w) (pad w message)).map fun block =>
    (chunks (w / 8) block).map fun bs => BitVec.ofNat w (ofBe bs)).foldl (compress v) initial

end

def sha256 (message : Bytes) : Bytes :=
  (digest variant32 (State.ofWords ((squareRoots.take 8).map (· / 2 ^ 32))) message).toBytes

def sha384 (message : Bytes) : Bytes :=
  ((digest variant64 (State.ofWords (squareRoots.drop 8)) message).toBytes).take 48

def sha512 (message : Bytes) : Bytes :=
  (digest variant64 (State.ofWords (squareRoots.take 8)) message).toBytes

theorem State.length_toBytes {w : Nat} (s : State w) : s.toBytes.length = 8 * (w / 8) := by
  unfold State.toBytes State.words
  simp only [List.flatMap_cons, List.flatMap_nil, List.length_append, length_beBytes,
    List.length_nil]
  omega

theorem length_sha256 (message : Bytes) : (sha256 message).length = 32 := State.length_toBytes _

theorem length_sha384 (message : Bytes) : (sha384 message).length = 48 := by
  rw [sha384, List.length_take, State.length_toBytes]
  rfl

theorem length_sha512 (message : Bytes) : (sha512 message).length = 64 := State.length_toBytes _

end SecureHash
