import Isomdl.Lib.Sha2
import Mathlib.Data.List.GetD

/-!
# Eight-lane SHA-256 (`simd_sha256.rs`)

Eight messages with one block count are hashed at once: a `U32x8` is a vector of eight words whose
operations act on every lane by itself.  Lane by lane the code is the compression function of the
secure hash algorithm, over blocks that `fillBlock` cuts out of the padded message.

* `State.lane_compress`                 one lane of a compression;
* `fillBlock_eq`                        a staged block is a block of the padded message;
* `hashEight_eq`                        every lane is the digest of its message;
* `hashManySameBlockCount_eq`           and so is every output.
-/

namespace SimdSha256

def LANES : Nat := 8
def BLOCK_BYTES : Nat := 64

def INITIAL_STATE : List (BitVec 32) :=
  [0x6a09e667, 0xbb67ae85, 0x3c6ef372, 0xa54ff53a, 0x510e527f, 0x9b05688c, 0x1f83d9ab, 0x5be0cd19]

def ROUND_CONSTANTS : List (BitVec 32) :=
  [0x428a2f98, 0x71374491, 0xb5c0fbcf, 0xe9b5dba5, 0x3956c25b, 0x59f111f1, 0x923f82a4, 0xab1c5ed5,
   0xd807aa98, 0x12835b01, 0x243185be, 0x550c7dc3, 0x72be5d74, 0x80deb1fe, 0x9bdc06a7, 0xc19bf174,
   0xe49b69c1, 0xefbe4786, 0x0fc19dc6, 0x240ca1cc, 0x2de92c6f, 0x4a7484aa, 0x5cb0a9dc, 0x76f988da,
   0x983e5152, 0xa831c66d, 0xb00327c8, 0xbf597fc7, 0xc6e00bf3, 0xd5a79147, 0x06ca6351, 0x14292967,
   0x27b70a85, 0x2e1b2138, 0x4d2c6dfc, 0x53380d13, 0x650a7354, 0x766a0abb, 0x81c2c92e, 0x92722c85,
   0xa2bfe8a1, 0xa81a664b, 0xc24b8b70, 0xc76c51a3, 0xd192e819, 0xd6990624, 0xf40e3585, 0x106aa070,
   0x19a4c116, 0x1e376c08, 0x2748774c, 0x34b0bcb5, 0x391c0cb3, 0x4ed8aa4a, 0x5b9cca4f, 0x682e6ff3,
   0x748f82ee, 0x78a5636f, 0x84c87814, 0x8cc70208, 0x90befffa, 0xa4506ceb, 0xbef9a3f7, 0xc67178f2]

/-! ## lanes -/

/-- `wide::u32x8` -/
structure U32x8 where
  lanes : Vector (BitVec 32) 8
  deriving DecidableEq

namespace U32x8

def new (f : Fin 8 → BitVec 32) : U32x8 := ⟨Vector.ofFn f⟩
def splat (v : BitVec 32) : U32x8 := ⟨Vector.replicate 8 v⟩
def ZERO : U32x8 := splat 0
def lane (x : U32x8) (i : Fin 8) : BitVec 32 := x.lanes[i]

def map (f : BitVec 32 → BitVec 32) (x : U32x8) : U32x8 := ⟨x.lanes.map f⟩

def zipWith (f : BitVec 32 → BitVec 32 → BitVec 32) (x y : U32x8) : U32x8 :=
  ⟨Vector.zipWith f x.lanes y.lanes⟩

instance : Add U32x8 := ⟨zipWith (· + ·)⟩
instance : AndOp U32x8 := ⟨zipWith (· &&& ·)⟩
instance : OrOp U32x8 := ⟨zipWith (· ||| ·)⟩
instance : XorOp U32x8 := ⟨zipWith (· ^^^ ·)⟩
instance : Complement U32x8 := ⟨map (~~~ ·)⟩
instance : HShiftLeft U32x8 Nat U32x8 := ⟨fun x n => map (· <<< n) x⟩
instance : HShiftRight U32x8 Nat U32x8 := ⟨fun x n => map (· >>> n) x⟩

section
variable (x y : U32x8) (i : Fin 8)

theorem lane_map (f : BitVec 32 → BitVec 32) : (map f x).lane i = f (x.lane i) :=
  Vector.getElem_map f i.isLt

theorem lane_zipWith (f : BitVec 32 → BitVec 32 → BitVec 32) :
    (zipWith f x y).lane i = f (x.lane i) (y.lane i) := Vector.getElem_zipWith i.isLt

@[simp] theorem lane_new (f : Fin 8 → BitVec 32) : (new f).lane i = f i :=
  Vector.getElem_ofFn i.isLt

@[simp] theorem lane_splat (v : BitVec 32) : (splat v).lane i = v := Vector.getElem_replicate i.isLt
@[simp] theorem lane_zero : ZERO.lane i = 0 := lane_splat i 0
@[simp] theorem lane_add : (x + y).lane i = x.lane i + y.lane i := lane_zipWith x y i _
@[simp] theorem lane_and : (x &&& y).lane i = x.lane i &&& y.lane i := lane_zipWith x y i _
@[simp] theorem lane_or : (x ||| y).lane i = x.lane i ||| y.lane i := lane_zipWith x y i _
@[simp] theorem lane_xor : (x ^^^ y).lane i = x.lane i ^^^ y.lane i := lane_zipWith x y i _
@[simp] theorem lane_not : (~~~x).lane i = ~~~x.lane i := lane_map x i _

@[simp] theorem lane_shiftLeft (n : Nat) : (x <<< n).lane i = x.lane i <<< n :=
  lane_map x i (· <<< n)

@[simp] theorem lane_shiftRight (n : Nat) : (x >>> n).lane i = x.lane i >>> n :=
  lane_map x i (· >>> n)

end

end U32x8

/-! ## round functions -/

def rotateRight (value : U32x8) (count : Nat) : U32x8 :=
  (value >>> count) ||| (value <<< (32 - count))

def choose (x y z : U32x8) : U32x8 := (x &&& y) ^^^ (~~~x &&& z)
def majority (x y z : U32x8) : U32x8 := (x &&& y) ^^^ (x &&& z) ^^^ (y &&& z)

def bigSigmaZero (value : U32x8) : U32x8 :=
  rotateRight value 2 ^^^ rotateRight value 13 ^^^ rotateRight value 22

def bigSigmaOne (value : U32x8) : U32x8 :=
  rotateRight value 6 ^^^ rotateRight value 11 ^^^ rotateRight value 25

def smallSigmaZero (value : U32x8) : U32x8 :=
  rotateRight value 7 ^^^ rotateRight value 18 ^^^ (value >>> 3)

def smallSigmaOne (value : U32x8) : U32x8 :=
  rotateRight value 17 ^^^ rotateRight value 19 ^^^ (value >>> 10)

theorem lane_rotateRight (x : U32x8) {count : Nat} (h : count < 32) (i : Fin 8) :
    (rotateRight x count).lane i = (x.lane i).rotateRight count := by
  rw [rotateRight, U32x8.lane_or, U32x8.lane_shiftRight, U32x8.lane_shiftLeft,
    BitVec.rotateRight_def, Nat.mod_eq_of_lt h]

open SecureHash (variant32)

theorem lane_bigSigmaZero (x : U32x8) (i : Fin 8) :
    (bigSigmaZero x).lane i = variant32.bigSigma0 (x.lane i) := by
  unfold bigSigmaZero
  rw [U32x8.lane_xor, U32x8.lane_xor, lane_rotateRight x (by decide),
    lane_rotateRight x (by decide), lane_rotateRight x (by decide)]
  rfl

theorem lane_bigSigmaOne (x : U32x8) (i : Fin 8) :
    (bigSigmaOne x).lane i = variant32.bigSigma1 (x.lane i) := by
  unfold bigSigmaOne
  rw [U32x8.lane_xor, U32x8.lane_xor, lane_rotateRight x (by decide),
    lane_rotateRight x (by decide), lane_rotateRight x (by decide)]
  rfl

theorem lane_smallSigmaZero (x : U32x8) (i : Fin 8) :
    (smallSigmaZero x).lane i = variant32.smallSigma0 (x.lane i) := by
  unfold smallSigmaZero
  rw [U32x8.lane_xor, U32x8.lane_xor, lane_rotateRight x (by decide),
    lane_rotateRight x (by decide), U32x8.lane_shiftRight]
  rfl

theorem lane_smallSigmaOne (x : U32x8) (i : Fin 8) :
    (smallSigmaOne x).lane i = variant32.smallSigma1 (x.lane i) := by
  unfold smallSigmaOne
  rw [U32x8.lane_xor, U32x8.lane_xor, lane_rotateRight x (by decide),
    lane_rotateRight x (by decide), U32x8.lane_shiftRight]
  rfl

/-! ## compression -/

/-- the eight working variables, in eight lanes -/
structure State where
  a : U32x8
  b : U32x8
  c : U32x8
  d : U32x8
  e : U32x8
  f : U32x8
  g : U32x8
  h : U32x8

namespace State

def words (s : State) : List U32x8 := [s.a, s.b, s.c, s.d, s.e, s.f, s.g, s.h]

def add (s t : State) : State :=
  ⟨s.a + t.a, s.b + t.b, s.c + t.c, s.d + t.d, s.e + t.e, s.f + t.f, s.g + t.g, s.h + t.h⟩

/-- `INITIAL_STATE.map(u32x8::splat)` -/
def initial : State :=
  ⟨.splat (INITIAL_STATE.getD 0 0), .splat (INITIAL_STATE.getD 1 0),
    .splat (INITIAL_STATE.getD 2 0), .splat (INITIAL_STATE.getD 3 0),
    .splat (INITIAL_STATE.getD 4 0), .splat (INITIAL_STATE.getD 5 0),
    .splat (INITIAL_STATE.getD 6 0), .splat (INITIAL_STATE.getD 7 0)⟩

/-- one turn of the round loop -/
def round (s : State) (constant : BitVec 32) (word : U32x8) : State :=
  let first := s.h + bigSigmaOne s.e + choose s.e s.f s.g + U32x8.splat constant + word
  let second := bigSigmaZero s.a + majority s.a s.b s.c
  ⟨first + second, s.a, s.b, s.c, s.d + first, s.e, s.f, s.g⟩

/-- one lane of a state -/
def lane (s : State) (i : Fin 8) : SecureHash.State 32 :=
  ⟨s.a.lane i, s.b.lane i, s.c.lane i, s.d.lane i, s.e.lane i, s.f.lane i, s.g.lane i,
    s.h.lane i⟩

theorem lane_round (s : State) (constant : BitVec 32) (word : U32x8) (i : Fin 8) :
    (s.round constant word).lane i =
      SecureHash.round variant32 (s.lane i) constant (word.lane i) := by
  unfold round SecureHash.round lane choose majority
  simp only [U32x8.lane_add, U32x8.lane_xor, U32x8.lane_and, U32x8.lane_not, U32x8.lane_splat,
    lane_bigSigmaOne, lane_bigSigmaZero]

theorem lane_add (s t : State) (i : Fin 8) : (s.add t).lane i = (s.lane i).add (t.lane i) := by
  unfold add SecureHash.State.add lane
  simp only [U32x8.lane_add]

end State

/-- the words of the staged blocks -/
def messageWords (staged : Fin 8 → Bytes) : List U32x8 :=
  (List.range 16).map fun wordIndex => U32x8.new fun lane =>
    BitVec.ofNat 32 (ofBe (((staged lane).drop (wordIndex * 4)).take 4))

/-- the loop that fills the schedule, from its first `schedule.length` words on -/
def extendSchedule : Nat → List U32x8 → List U32x8
  | 0, schedule => schedule
  | n + 1, schedule =>
    let index := schedule.length
    extendSchedule n (schedule ++ [smallSigmaOne (schedule.getD (index - 2) .ZERO) +
      schedule.getD (index - 7) .ZERO + smallSigmaZero (schedule.getD (index - 15) .ZERO) +
      schedule.getD (index - 16) .ZERO])

/-- one turn of the block loop -/
def State.compress (state : State) (staged : Fin 8 → Bytes) : State :=
  let schedule := extendSchedule 48 (messageWords staged)
  state.add ((ROUND_CONSTANTS.zip schedule).foldl (fun s p => s.round p.1 p.2) state)

/-- an entry counted from the end -/
theorem getD_reverse {α : Type} (l : List α) {k : Nat} (h : k < l.length) (d : α) :
    l.reverse.getD k d = l.getD (l.length - (k + 1)) d := by
  rw [List.getD_eq_getElem?_getD, List.getD_eq_getElem?_getD, List.getElem?_reverse h]
  congr 2
  omega

/-- **One lane of the schedule is the schedule of one message**, which lists its words newest
first. -/
theorem lane_extendSchedule (n : Nat) {schedule : List U32x8} (h : 16 ≤ schedule.length)
    (i : Fin 8) :
    (extendSchedule n schedule).map (·.lane i) =
      (SecureHash.schedule variant32 n (schedule.map (·.lane i)).reverse).reverse := by
  induction n generalizing schedule with
  | zero =>
    show schedule.map (·.lane i) = _
    rw [SecureHash.schedule, List.reverse_reverse]
  | succ n ih =>
    have hget (k : Nat) (hk : k < schedule.length) :
        (schedule.map (·.lane i)).reverse.getD k 0 =
          (schedule.getD (schedule.length - (k + 1)) .ZERO).lane i := by
      rw [getD_reverse _ (by rw [List.length_map]; exact hk), List.length_map,
        List.getD_eq_getElem?_getD, List.getD_eq_getElem?_getD, List.getElem?_map,
        ← U32x8.lane_zero i, Option.getD_map]
    rw [extendSchedule, SecureHash.schedule, ih (by rw [List.length_append]; omega)]
    rw [hget 1 (by omega), hget 6 (by omega), hget 14 (by omega), hget 15 (by omega)]
    rw [List.map_append, List.reverse_append, List.map_singleton, List.reverse_singleton,
      List.singleton_append]
    simp only [U32x8.lane_add, lane_smallSigmaOne, lane_smallSigmaZero]

theorem length_messageWords (staged : Fin 8 → Bytes) : (messageWords staged).length = 16 := by
  rw [messageWords, List.length_map, List.length_range]

/-- the words of one lane are the words of its block -/
theorem lane_messageWords (staged : Fin 8 → Bytes) (i : Fin 8) (h : (staged i).length = 64) :
    (messageWords staged).map (·.lane i) =
      (SecureHash.chunks 4 (staged i)).map fun bs => BitVec.ofNat 32 (ofBe bs) := by
  rw [messageWords, SecureHash.chunks, h, List.map_map, List.map_map]
  apply List.map_congr_left
  intro k hk
  exact U32x8.lane_new i _

theorem lane_rounds (rounds : List (BitVec 32 × U32x8)) (state : State) (i : Fin 8) :
    (rounds.foldl (fun s p => s.round p.1 p.2) state).lane i =
      (rounds.map fun p => (p.1, p.2.lane i)).foldl
        (fun s p => SecureHash.round variant32 s p.1 p.2) (state.lane i) := by
  induction rounds generalizing state with
  | nil => rfl
  | cons p rounds ih => rw [List.foldl_cons, List.map_cons, List.foldl_cons, ih, State.lane_round]

theorem roundConstants_eq : ROUND_CONSTANTS = variant32.constants := by decide +kernel

/-- **One lane of a compression is the compression of one message.** -/
theorem State.lane_compress (state : State) (staged : Fin 8 → Bytes) (i : Fin 8)
    (h : (staged i).length = 64) :
    (state.compress staged).lane i = SecureHash.compress variant32 (state.lane i)
      ((SecureHash.chunks 4 (staged i)).map fun bs => BitVec.ofNat 32 (ofBe bs)) := by
  have hzip (ws : List U32x8) :
      (ROUND_CONSTANTS.zip ws).map (fun p => (p.1, p.2.lane i)) =
        variant32.constants.zip (ws.map (·.lane i)) := by
    rw [← roundConstants_eq, List.zip_map_right]
    rfl
  rw [compress, SecureHash.compress, State.lane_add, lane_rounds, hzip,
    lane_extendSchedule 48 (by rw [length_messageWords]), lane_messageWords staged i h]
  rfl

/-! ## blocks -/

def sha256BlockCount (inputLen : Nat) : Nat :=
  inputLen / BLOCK_BYTES + (if 56 ≤ inputLen % BLOCK_BYTES then 1 else 0) + 1

/-- `block[start..start + src.len()].copy_from_slice(src)` -/
def copyFromSlice (block : Bytes) (start : Nat) (src : Bytes) : Bytes :=
  block.take start ++ src ++ block.drop (start + src.length)

def fillBlock (input : Bytes) (blockIndex blockCount : Nat) : Bytes :=
  let block := List.replicate BLOCK_BYTES 0
  let start := blockIndex * BLOCK_BYTES
  let block := if start < input.length then
      let byteCount := min (input.length - start) BLOCK_BYTES
      copyFromSlice block 0 ((input.drop start).take byteCount)
    else block
  let block := if start ≤ input.length ∧ input.length < start + BLOCK_BYTES then
      block.set (input.length - start) 0x80
    else block
  if blockIndex + 1 = blockCount then
    let bitLength := input.length % 2 ^ 64 * 8 % 2 ^ 64
    copyFromSlice block (BLOCK_BYTES - 8) (beBytes 8 bitLength)
  else block

/-- the block count leaves room for the one and the length, and no block to spare -/
theorem sha256BlockCount_bounds (len : Nat) :
    len + 9 ≤ sha256BlockCount len * 64 ∧ sha256BlockCount len * 64 < len + 9 + 64 := by
  unfold sha256BlockCount BLOCK_BYTES
  split <;> omega

theorem getElem?_copyFromSlice {block src : Bytes} {start : Nat}
    (h : start + src.length ≤ block.length) (k : Nat) :
    (copyFromSlice block start src)[k]? =
      if k < start then block[k]?
      else if k < start + src.length then src[k - start]?
      else block[k]? := by
  have htake : (block.take start).length = start := by
    rw [List.length_take]
    omega
  unfold copyFromSlice
  rw [List.append_assoc]
  split
  · next hk => rw [List.getElem?_append_left (by omega), List.getElem?_take_of_lt hk]
  · next hk =>
    rw [List.getElem?_append_right (by omega), htake]
    split
    · next hk' => rw [List.getElem?_append_left (by omega)]
    · next hk' =>
      rw [List.getElem?_append_right (by omega), List.getElem?_drop]
      congr 1
      omega

theorem length_copyFromSlice {block src : Bytes} {start : Nat}
    (h : start + src.length ≤ block.length) :
    (copyFromSlice block start src).length = block.length := by
  unfold copyFromSlice
  simp only [List.length_append, List.length_take, List.length_drop]
  omega

/-- a byte of a message padded to `blocks` blocks -/
def paddedByte (message : Bytes) (blocks k : Nat) : Option UInt8 :=
  if k < message.length then message[k]?
  else if k = message.length then some 0x80
  else if k < blocks * 64 - 8 then some 0
  else (beBytes 8 (8 * message.length))[k - (blocks * 64 - 8)]?

theorem length_pad (message : Bytes) :
    (SecureHash.pad 32 message).length = sha256BlockCount message.length * 64 := by
  have h := sha256BlockCount_bounds message.length
  unfold SecureHash.pad
  simp only [List.length_append, List.length_cons, List.length_replicate, length_beBytes]
  omega

theorem pad_eq (message : Bytes) :
    SecureHash.pad 32 message = message ++ 0x80 ::
      List.replicate (sha256BlockCount message.length * 64 - 9 - message.length) 0 ++
      beBytes 8 (8 * message.length) := by
  obtain ⟨hlow, hhigh⟩ := sha256BlockCount_bounds message.length
  have hzeros : (2 * (2 * 32) - (message.length + 1 + 32 / 4) % (2 * 32)) % (2 * 32) =
      sha256BlockCount message.length * 64 - 9 - message.length := by omega
  rw [← hzeros]
  rfl

theorem getElem?_pad (message : Bytes) (k : Nat) :
    (SecureHash.pad 32 message)[k]? =
      paddedByte message (sha256BlockCount message.length) k := by
  obtain ⟨hlow, -⟩ := sha256BlockCount_bounds message.length
  rw [pad_eq]
  unfold paddedByte
  generalize sha256BlockCount message.length = blocks at *
  rw [List.append_assoc]
  split
  · next hk => rw [List.getElem?_append_left hk]
  · next hk =>
    rw [List.getElem?_append_right (by omega)]
    obtain ⟨d, rfl⟩ : ∃ d, k = message.length + d := ⟨k - message.length, by omega⟩
    rw [Nat.add_sub_cancel_left]
    cases d with
    | zero =>
      rw [if_pos (Nat.add_zero _)]
      rfl
    | succ d =>
      rw [if_neg (by omega), List.cons_append, List.getElem?_cons_succ]
      split
      · next hd =>
        rw [List.getElem?_append_left (by rw [List.length_replicate]; omega),
          List.getElem?_replicate_of_lt (by omega)]
      · next hd =>
        rw [List.getElem?_append_right (by rw [List.length_replicate]; omega),
          List.length_replicate]
        congr 1
        omega

/-- the length field wraps as the big-endian bytes do -/
theorem beBytes_mod {w k : Nat} (h : w ≤ k) (n : Nat) :
    beBytes w (n % 256 ^ k) = beBytes w n := by
  induction w with
  | zero => rfl
  | succ w ih =>
    rw [beBytes, beBytes, ih (by omega)]
    congr 1
    apply UInt8.toNat_inj.mp
    rw [UInt8.toNat_ofNat', UInt8.toNat_ofNat']
    obtain ⟨d, rfl⟩ : ∃ d, k = w + 1 + d := ⟨k - (w + 1), by omega⟩
    have hpow : (256 : Nat) ^ (w + 1 + d) = 256 ^ w * (256 * 256 ^ d) := by ring
    show n % _ / 256 ^ w % 256 = n / 256 ^ w % 256
    rw [hpow, Nat.mod_mul_right_div_self, Nat.mod_mul_right_mod]

section
variable {input block src : Bytes} {start k : Nat}

/-- the message bytes of a block, over zeros -/
theorem copied_block (hk : k < BLOCK_BYTES) :
    (if start < input.length then copyFromSlice (List.replicate BLOCK_BYTES 0) 0
        ((input.drop start).take (min (input.length - start) BLOCK_BYTES))
      else List.replicate BLOCK_BYTES 0)[k]? =
      if start + k < input.length then input[start + k]? else some 0 := by
  have hsrc : ((input.drop start).take (min (input.length - start) BLOCK_BYTES)).length =
      min (input.length - start) BLOCK_BYTES := by
    rw [List.length_take, List.length_drop]
    omega
  split
  · next hstart =>
    rw [getElem?_copyFromSlice (by rw [hsrc, List.length_replicate]; omega), if_neg (by omega),
      hsrc]
    split
    · next h =>
      rw [Nat.sub_zero, List.getElem?_take_of_lt (by omega), List.getElem?_drop,
        if_pos (by omega)]
    · next h => rw [if_neg (by omega), List.getElem?_replicate_of_lt hk]
  · next hstart => rw [if_neg (by omega), List.getElem?_replicate_of_lt hk]

theorem length_copied_block :
    (if start < input.length then copyFromSlice (List.replicate BLOCK_BYTES 0) 0
        ((input.drop start).take (min (input.length - start) BLOCK_BYTES))
      else List.replicate BLOCK_BYTES 0).length = BLOCK_BYTES := by
  split
  · rw [length_copyFromSlice, List.length_replicate]
    rw [List.length_take, List.length_drop, List.length_replicate]
    omega
  · exact List.length_replicate

/-- the one after the message, in the block it falls into -/
theorem marked_block (hblock : block.length = BLOCK_BYTES) (hk : k < BLOCK_BYTES) :
    (if start ≤ input.length ∧ input.length < start + BLOCK_BYTES then
        block.set (input.length - start) 0x80
      else block)[k]? = if start + k = input.length then some 0x80 else block[k]? := by
  split
  · next h =>
    rw [List.getElem?_set]
    split
    · next heq => rw [if_pos (by omega), if_pos (by omega)]
    · next hne => rw [if_neg (by omega)]
  · next h => rw [if_neg (by omega)]

theorem length_marked_block (hblock : block.length = BLOCK_BYTES) :
    (if start ≤ input.length ∧ input.length < start + BLOCK_BYTES then
        block.set (input.length - start) 0x80
      else block).length = BLOCK_BYTES := by
  split
  · rw [List.length_set, hblock]
  · exact hblock

/-- the length, in the last block -/
theorem closed_block (c : Prop) [Decidable c] (hblock : block.length = BLOCK_BYTES)
    (hsrc : src.length = 8) (hk : k < BLOCK_BYTES) :
    (if c then copyFromSlice block (BLOCK_BYTES - 8) src else block)[k]? =
      if c ∧ BLOCK_BYTES - 8 ≤ k then src[k - (BLOCK_BYTES - 8)]? else block[k]? := by
  have hfits : BLOCK_BYTES - 8 + src.length = BLOCK_BYTES := by
    rw [hsrc]
    rfl
  split
  · next h =>
    rw [getElem?_copyFromSlice (by omega), hfits, if_pos hk]
    split
    · next hlt => rw [if_neg (fun h => by omega)]
    · next hge => rw [if_pos ⟨h, by omega⟩]
  · next h => rw [if_neg (fun h' => h h'.1)]

theorem length_closed_block (c : Prop) [Decidable c] (hblock : block.length = BLOCK_BYTES)
    (hsrc : src.length = 8) :
    (if c then copyFromSlice block (BLOCK_BYTES - 8) src else block).length = BLOCK_BYTES := by
  split
  · rw [length_copyFromSlice, hblock]
    rw [hblock, hsrc]
    decide
  · exact hblock

end

/-- a byte of a staged block is a byte of the padded message -/
theorem getElem?_fillBlock (input : Bytes) {blockIndex k : Nat}
    (hindex : blockIndex < sha256BlockCount input.length) (hk : k < BLOCK_BYTES) :
    (fillBlock input blockIndex (sha256BlockCount input.length))[k]? =
      paddedByte input (sha256BlockCount input.length) (blockIndex * BLOCK_BYTES + k) := by
  obtain ⟨hlow, hhigh⟩ := sha256BlockCount_bounds input.length
  have hlength : beBytes 8 (input.length % 2 ^ 64 * 8 % 2 ^ 64) = beBytes 8 (8 * input.length) := by
    rw [Nat.mod_mul_mod, Nat.mul_comm]
    exact beBytes_mod (Nat.le_refl 8) _
  unfold fillBlock
  dsimp only
  rw [closed_block _ (length_marked_block length_copied_block) (length_beBytes _ _) hk,
    marked_block length_copied_block hk, copied_block hk, hlength]
  unfold paddedByte
  unfold BLOCK_BYTES at *
  split
  · next h =>
    rw [if_neg (by omega), if_neg (by omega), if_neg (by omega)]
    congr 1
    omega
  · next h =>
    split
    · next hone => rw [if_neg (by omega)]
    · next hone =>
      split
      · next hlt => rfl
      · next hge => rw [if_pos (by omega)]

theorem length_fillBlock (input : Bytes) (blockIndex blockCount : Nat) :
    (fillBlock input blockIndex blockCount).length = BLOCK_BYTES :=
  length_closed_block _ (length_marked_block length_copied_block) (length_beBytes _ _)

/-- **A staged block is a block of the padded message.** -/
theorem fillBlock_eq (input : Bytes) {blockIndex : Nat}
    (h : blockIndex < sha256BlockCount input.length) :
    fillBlock input blockIndex (sha256BlockCount input.length) =
      ((SecureHash.pad 32 input).drop (blockIndex * BLOCK_BYTES)).take BLOCK_BYTES := by
  apply List.ext_getElem?
  intro k
  by_cases hk : k < BLOCK_BYTES
  · rw [getElem?_fillBlock input h hk, List.getElem?_take_of_lt hk, List.getElem?_drop,
      getElem?_pad]
  · rw [List.getElem?_eq_none (by rw [length_fillBlock]; omega),
      List.getElem?_eq_none (by rw [List.length_take]; omega)]

/-- the staged blocks of a message are the blocks the hash cuts its padded message into -/
theorem map_fillBlock (input : Bytes) :
    (List.range (sha256BlockCount input.length)).map
        (fun blockIndex => fillBlock input blockIndex (sha256BlockCount input.length)) =
      SecureHash.chunks (2 * 32) (SecureHash.pad 32 input) := by
  rw [SecureHash.chunks, length_pad, Nat.mul_div_cancel _ (by decide)]
  apply List.map_congr_left
  intro blockIndex h
  exact fillBlock_eq input (List.mem_range.mp h)

/-! ## eight messages -/

/-- the state after the first blocks of eight messages -/
def hashBlocks (inputs : Fin 8 → Bytes) (blockCount : Nat) (blocks : List Nat) : State :=
  blocks.foldl (fun state blockIndex => state.compress fun lane =>
    fillBlock (inputs lane) blockIndex blockCount) State.initial

def hashEight (inputs : Fin 8 → Bytes) (blockCount : Nat) : Fin 8 → Bytes :=
  let state := hashBlocks inputs blockCount (List.range blockCount)
  fun lane => state.words.flatMap fun word => beBytes 4 (word.lane lane).toNat

theorem State.lane_initial (i : Fin 8) :
    State.initial.lane i =
      SecureHash.State.ofWords ((SecureHash.squareRoots.take 8).map (· / 2 ^ 32)) := by
  unfold initial lane
  simp only [U32x8.lane_splat]
  rfl

theorem lane_hashBlocks (inputs : Fin 8 → Bytes) (blockCount : Nat) (blocks : List Nat)
    (i : Fin 8) :
    (hashBlocks inputs blockCount blocks).lane i =
      ((blocks.map fun blockIndex => fillBlock (inputs i) blockIndex blockCount).map fun block =>
        (SecureHash.chunks 4 block).map fun bs => BitVec.ofNat 32 (ofBe bs)).foldl
        (SecureHash.compress variant32) (State.initial.lane i) := by
  unfold hashBlocks
  generalize State.initial = state
  induction blocks generalizing state with
  | nil => rfl
  | cons blockIndex blocks ih =>
    rw [List.foldl_cons, ih, State.lane_compress _ _ i (length_fillBlock _ _ _)]
    rfl

/-- **Every lane is the digest of its message.** -/
theorem hashEight_eq (inputs : Fin 8 → Bytes) (i : Fin 8) :
    hashEight inputs (sha256BlockCount (inputs i).length) i = SecureHash.sha256 (inputs i) := by
  have hlane := lane_hashBlocks inputs (sha256BlockCount (inputs i).length)
    (List.range (sha256BlockCount (inputs i).length)) i
  rw [map_fillBlock, State.lane_initial] at hlane
  show SecureHash.State.toBytes (State.lane _ i) = _
  rw [hlane]
  rfl

/-! ## many messages -/

/-- `as_chunks::<LANES>` -/
def asChunks (inputs : List Bytes) : List (Fin 8 → Bytes) :=
  (List.range (inputs.length / LANES)).map fun group lane =>
    inputs.getD (group * LANES + lane.val) []

/-- whether the outputs were written, and the outputs -/
def hashManySameBlockCount (inputs outputs : List Bytes) : Bool × List Bytes :=
  if inputs.length ≠ outputs.length ∨ ¬LANES ∣ inputs.length then (false, outputs)
  else match inputs with
    | [] => (true, outputs)
    | first :: _ =>
      let blockCount := sha256BlockCount first.length
      if inputs.any fun input => sha256BlockCount input.length ≠ blockCount then (false, outputs)
      else (true, (asChunks inputs).flatMap fun group => List.ofFn (hashEight group blockCount))

/-- the groups of eight, each mapped, are the list mapped -/
theorem flatMap_asChunks {inputs : List Bytes} (h : LANES ∣ inputs.length) (f : Bytes → Bytes) :
    ((asChunks inputs).flatMap fun group => List.ofFn fun lane => f (group lane)) =
      inputs.map f := by
  have htake (groups : Nat) (hgroups : groups * LANES ≤ inputs.length) :
      ((List.range groups).map fun group (lane : Fin 8) =>
          inputs.getD (group * LANES + lane.val) []).flatMap
        (fun group => List.ofFn fun lane => f (group lane)) =
        (inputs.take (groups * LANES)).map f := by
    induction groups with
    | zero => simp
    | succ groups ih =>
      rw [Nat.succ_mul] at hgroups
      rw [List.range_succ, List.map_append, List.flatMap_append, ih (by omega), Nat.succ_mul,
        List.take_add, List.map_append]
      congr 1
      rw [List.map_singleton, List.flatMap_singleton]
      apply List.ext_getElem
      · simp only [List.length_ofFn, List.length_map, List.length_take, List.length_drop]
        unfold LANES at *
        omega
      · intro k hk _
        rw [List.length_ofFn] at hk
        have hindex : groups * LANES + k < inputs.length := by
          unfold LANES at *
          omega
        rw [List.getElem_ofFn, List.getElem_map, List.getElem_take, List.getElem_drop]
        exact congrArg f (List.getD_eq_getElem _ _ hindex)
  rw [asChunks, htake _ (Nat.div_mul_le_self _ _), Nat.div_mul_cancel h, List.take_length]

theorem mem_asChunks {inputs : List Bytes} {group : Fin 8 → Bytes} (h : group ∈ asChunks inputs)
    (lane : Fin 8) : group lane ∈ inputs := by
  obtain ⟨k, hk, rfl⟩ := List.mem_map.mp h
  have hlt := List.mem_range.mp hk
  have hindex : k * LANES + lane.val < inputs.length := by
    unfold LANES at *
    omega
  show inputs.getD _ [] ∈ inputs
  rw [List.getD_eq_getElem _ _ hindex]
  exact List.getElem_mem hindex

/-- **The outputs are the digests of the inputs**, when every input has one block count. -/
theorem hashManySameBlockCount_eq {inputs outputs : List Bytes} {blockCount : Nat}
    (hlength : inputs.length = outputs.length) (hlanes : LANES ∣ inputs.length)
    (hcount : ∀ input ∈ inputs, sha256BlockCount input.length = blockCount) :
    hashManySameBlockCount inputs outputs = (true, inputs.map SecureHash.sha256) := by
  have hgroups : ((asChunks inputs).flatMap fun group => List.ofFn (hashEight group blockCount)) =
      inputs.map SecureHash.sha256 := by
    rw [← flatMap_asChunks hlanes, List.flatMap_def, List.flatMap_def]
    congr 1
    apply List.map_congr_left
    intro group hgroup
    congr 1
    funext lane
    rw [← hcount _ (mem_asChunks hgroup lane), hashEight_eq]
  unfold hashManySameBlockCount
  rw [if_neg (by rw [not_or, not_not, not_not]; exact ⟨hlength, hlanes⟩)]
  cases inputs with
  | nil =>
    rw [List.length_nil] at hlength
    rw [List.eq_nil_of_length_eq_zero hlength.symm]
    rfl
  | cons first rest =>
    have hfirst : sha256BlockCount first.length = blockCount := hcount first List.mem_cons_self
    have hsame : ¬((first :: rest).any
        fun input => sha256BlockCount input.length ≠ blockCount) = true := by
      rw [List.any_eq_true]
      intro h
      obtain ⟨input, hinput, hne⟩ := h
      exact of_decide_eq_true hne (hcount input hinput)
    dsimp only
    rw [hfirst, if_neg hsame, hgroups]

end SimdSha256
