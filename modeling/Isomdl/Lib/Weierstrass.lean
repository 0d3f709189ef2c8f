import Isomdl.Lib.Machine

/-!
# Signatures over short Weierstrass curves

The curves `y² = x³ - 3x + b` over a prime field with `p % 4 = 3`, their points in Jacobian
coordinates, the encodings of SEC1, and the verification of ECDSA.
-/

namespace Weierstrass

/-- a curve with its base point -/
structure Curve where
  p : Nat
  b : Nat
  /-- of the base point -/
  order : Nat
  x : Nat
  y : Nat
  /-- the bytes of a coordinate -/
  size : Nat

def p256 : Curve where
  p := 0xffffffff00000001000000000000000000000000ffffffffffffffffffffffff
  b := 0x5ac635d8aa3a93e7b3ebbd55769886bc651d06b0cc53b0f63bce3c3e27d2604b
  order := 0xffffffff00000000ffffffffffffffffbce6faada7179e84f3b9cac2fc632551
  x := 0x6b17d1f2e12c4247f8bce6e563a440f277037d812deb33a0f4a13945d898c296
  y := 0x4fe342e2fe1a7f9b8ee7eb4a7c0f9e162bce33576b315ececbb6406837bf51f5
  size := 32

def p384 : Curve where
  p := 0xfffffffffffffffffffffffffffffffffffffffffffffffffffffffffffffffeffffffff0000000000000000ffffffff
  b := 0xb3312fa7e23ee7e4988e056be3f82d19181d9c6efe8141120314088f5013875ac656398d8a2ed19d2a85c8edd3ec2aef
  order := 0xffffffffffffffffffffffffffffffffffffffffffffffffc7634d81f4372ddf581a0db248b0a77aecec196accc52973
  x := 0xaa87ca22be8b05378eb1c71ef320ad746e1d3b628ba79b9859f741e082542a385502f25dbf55296c3a545e3872760ab7
  y := 0x3617de4a96262c6f5d9e98bf9292dc29f8f41dbd289a147ce9da3113b5f0b8c00a60b1ce1d7e819d7a431d7c90ea0e5f
  size := 48

def p521 : Curve where
  p := 2 ^ 521 - 1
  b := 0x51953eb9618e1c9a1f929a21a0b68540eea2da725b99b315f3b8b489918ef109e156193951ec7e937b1652c0bd3bb1bf073573df883d2c34f1ef451fd46b503f00
  order := 2 ^ 521 - 0x5ae79787c40d069948033feb708f65a2fc44a36477663b851449048e16ec79bf7
  x := 0xc6858e06b70404e9cd9e3ecb662395b4429c648139053fb521f828af606b4d3dbaa14b5e77efe75928fe1dc127a2ffa8de3348b3c1856a429bf97e7e31c2e5bd66
  y := 0x11839296a789a3bc0045c8a5fb42c7d1bd998f54449579b446817afbd17273e662c97ee72995ef42640c550b9013fad0761353c7086a272c24088be94769fd16650
  size := 66

/-! ## arithmetic -/

/-- `x` to the power of the `w` low bits of `e` -/
def powMod (m x : Nat) : Nat → Nat → Nat
  | 0, _ => 1
  | w + 1, e =>
    force (powMod m x w (e / 2)) fun s =>
    if e % 2 = 1 then s * s % m * x % m else s * s % m

/-- the inverse modulo a prime -/
def inverse (m x : Nat) : Nat := powMod m x (Nat.log2 m + 1) (m - 2)

/-- Jacobian coordinates; the point at infinity has `z = 0` -/
structure Point where
  x : Nat
  y : Nat
  z : Nat

def infinity : Point := ⟨1, 1, 0⟩

section
variable (c : Curve)

def base : Point := ⟨c.x, c.y, 1⟩

def sub (x y : Nat) : Nat := (x + c.p - y) % c.p

def double (q : Point) : Point :=
  force (q.z * q.z % c.p) fun delta =>
  force (q.y * q.y % c.p) fun gamma =>
  force (q.x * gamma % c.p) fun beta =>
  force (3 * sub c q.x delta * (q.x + delta) % c.p) fun alpha =>
  force (sub c (alpha * alpha % c.p) (8 * beta % c.p)) fun x =>
  force (sub c (alpha * sub c (4 * beta % c.p) x % c.p) (8 * gamma * gamma % c.p)) fun y =>
  force (sub c ((q.y + q.z) * (q.y + q.z) % c.p) ((gamma + delta) % c.p)) fun z => ⟨x, y, z⟩

def add (q r : Point) : Point :=
  if q.z = 0 then r
  else if r.z = 0 then q
  else
    force (q.z * q.z % c.p) fun zz₁ =>
    force (r.z * r.z % c.p) fun zz₂ =>
    force (q.x * zz₂ % c.p) fun u₁ =>
    force (r.x * zz₁ % c.p) fun u₂ =>
    force (q.y * r.z * zz₂ % c.p) fun s₁ =>
    force (r.y * q.z * zz₁ % c.p) fun s₂ =>
    if u₁ = u₂ then
      if s₁ = s₂ then double c q else infinity
    else
      force (sub c u₂ u₁) fun h =>
      force (sub c s₂ s₁) fun slope =>
      force (h * h % c.p) fun hh =>
      force (h * hh % c.p) fun hhh =>
      force (u₁ * hh % c.p) fun v =>
      force (sub c (slope * slope % c.p) ((hhh + 2 * v) % c.p)) fun x =>
      force (sub c (slope * sub c v x % c.p) (s₁ * hhh % c.p)) fun y =>
      force (q.z * r.z * h % c.p) fun z => ⟨x, y, z⟩

/-- the multiple of a point by the `w` low bits of `k` -/
def multiple (q : Point) : Nat → Nat → Point
  | 0, _ => infinity
  | w + 1, k =>
    let twice := double c (multiple q w (k / 2))
    if k % 2 = 1 then add c twice q else twice

def mul (k : Nat) (q : Point) : Point := multiple c q (8 * c.size) k

def affine (q : Point) : Option (Nat × Nat) :=
  if q.z = 0 then none
  else
    force (inverse c.p q.z) fun i =>
    force (i * i % c.p) fun ii =>
    force (q.x * ii % c.p) fun x =>
    force (q.y * (ii * i % c.p) % c.p) fun y => some (x, y)

/-! ## encodings -/

/-- the right-hand side of the equation -/
def cubic (x : Nat) : Nat := sub c (x * x % c.p * x % c.p + c.b) (3 * x % c.p)

/-- an uncompressed or a compressed point -/
def decodePoint (bytes : Bytes) : Option (Nat × Nat) :=
  match bytes with
  | [] => none
  | form :: coordinates =>
    let x := ofBe (coordinates.take c.size)
    if form = 4 ∧ coordinates.length = 2 * c.size then
      let y := ofBe (coordinates.drop c.size)
      if x < c.p ∧ y < c.p ∧ y * y % c.p = cubic c x then some (x, y) else none
    else if (form = 2 ∨ form = 3) ∧ coordinates.length = c.size ∧ x < c.p then
      force (cubic c x) fun yy =>
      force (powMod c.p yy (Nat.log2 c.p + 1) ((c.p + 1) / 4)) fun y =>
      if y * y % c.p ≠ yy then none
      else if y % 2 = form.toNat % 2 then some (x, y)
      else some (x, c.p - y)
    else none

/-- the two numbers of a signature, each below the order and not zero -/
def decodeSignature (bytes : Bytes) : Option (Nat × Nat) :=
  let r := ofBe (bytes.take c.size)
  let s := ofBe (bytes.drop c.size)
  if bytes.length = 2 * c.size ∧ 0 < r ∧ r < c.order ∧ 0 < s ∧ s < c.order then some (r, s)
  else none

/-! ## verification -/

/-- the number of a digest: its leftmost bits, as many as the order has -/
def digestNumber (digest : Bytes) : Nat :=
  let bits := Nat.log2 c.order + 1
  ofBe digest >>> (8 * digest.length - bits)

def verify (key : Nat × Nat) (digest : Bytes) (signature : Nat × Nat) : Bool :=
  force (inverse c.order signature.2) fun w =>
  force (digestNumber c digest * w % c.order) fun u₁ =>
  force (signature.1 * w % c.order) fun u₂ =>
  match affine c (add c (mul c u₁ (base c)) (mul c u₂ ⟨key.1, key.2, 1⟩)) with
  | none => false
  | some point => point.1 % c.order = signature.1

end

end Weierstrass
