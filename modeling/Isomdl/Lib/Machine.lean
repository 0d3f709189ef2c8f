import Mathlib.Tactic.Ring

/-!
# Machine numbers

`checkedAdd` is the addition of a fixed width that fails on overflow; `beBytes w n` are the `w`
big-endian bytes of `n` and `ofBe` reads them back.

* `UInt64.checkedAdd_one`, `UInt32.checkedAdd_one`   the next counter value, in `Nat`;
* `ofBe_beBytes`        reading back what fits in the width;
* `beBytes_inj`         two numbers that fit and share their bytes are equal.
-/

/-! ## checked addition -/

def UInt64.checkedAdd (a b : UInt64) : Option UInt64 :=
  if a.toNat + b.toNat < 2 ^ 64 then some (a + b) else none

def UInt32.checkedAdd (a b : UInt32) : Option UInt32 :=
  if a.toNat + b.toNat < 2 ^ 32 then some (a + b) else none

theorem UInt64.checkedAdd_one {a b : UInt64} :
    a.checkedAdd 1 = some b ↔ b.toNat = a.toNat + 1 := by
  rw [checkedAdd]
  have hb := b.toNat_lt
  constructor
  · intro h
    split at h
    · next hlt =>
      cases h
      rw [UInt64.toNat_add, Nat.mod_eq_of_lt hlt]
      rfl
    · cases h
  · intro h
    have hlt : a.toNat + UInt64.toNat 1 < 2 ^ 64 := by
      show a.toNat + 1 < 2 ^ 64
      omega
    rw [if_pos hlt, Option.some_inj]
    apply UInt64.toNat_inj.mp
    rw [UInt64.toNat_add, Nat.mod_eq_of_lt hlt, h]
    rfl

theorem UInt32.checkedAdd_one {a b : UInt32} :
    a.checkedAdd 1 = some b ↔ b.toNat = a.toNat + 1 := by
  rw [checkedAdd]
  have hb := b.toNat_lt
  constructor
  · intro h
    split at h
    · next hlt =>
      cases h
      rw [UInt32.toNat_add, Nat.mod_eq_of_lt hlt]
      rfl
    · cases h
  · intro h
    have hlt : a.toNat + UInt32.toNat 1 < 2 ^ 32 := by
      show a.toNat + 1 < 2 ^ 32
      omega
    rw [if_pos hlt, Option.some_inj]
    apply UInt32.toNat_inj.mp
    rw [UInt32.toNat_add, Nat.mod_eq_of_lt hlt, h]
    rfl

/-! ## big-endian bytes -/

abbrev Bytes := List UInt8

/-- the `w` low bytes of `n`, most significant first -/
def beBytes : Nat → Nat → Bytes
  | 0, _ => []
  | w + 1, n => UInt8.ofNat (n / 256 ^ w) :: beBytes w n

def ofBe (bs : Bytes) : Nat := bs.foldl (fun acc b => acc * 256 + b.toNat) 0

theorem length_beBytes (w n : Nat) : (beBytes w n).length = w := by
  induction w with
  | zero => rfl
  | succ w ih => rw [beBytes, List.length_cons, ih]

theorem foldl_beBytes (w n acc : Nat) :
    (beBytes w n).foldl (fun acc b => acc * 256 + b.toNat) acc = acc * 256 ^ w + n % 256 ^ w := by
  induction w generalizing acc with
  | zero => simp [beBytes, Nat.mod_one]
  | succ w ih =>
    have hbyte : (UInt8.ofNat (n / 256 ^ w)).toNat = n / 256 ^ w % 256 := by
      simp [UInt8.toNat_ofNat']
    have hsplit : n % 256 ^ (w + 1) = 256 ^ w * (n / 256 ^ w % 256) + n % 256 ^ w := by
      rw [pow_succ, Nat.mod_mul, add_comm]
    rw [beBytes, List.foldl_cons, ih, hbyte, hsplit]
    ring

/-- **A number that fits in `w` bytes is read back.** -/
theorem ofBe_beBytes {w n : Nat} (h : n < 256 ^ w) : ofBe (beBytes w n) = n := by
  rw [ofBe, foldl_beBytes, Nat.zero_mul, Nat.zero_add, Nat.mod_eq_of_lt h]

theorem beBytes_inj {w m n : Nat} (hm : m < 256 ^ w) (hn : n < 256 ^ w)
    (h : beBytes w m = beBytes w n) : m = n := by
  rw [← ofBe_beBytes hm, ← ofBe_beBytes hn, h]

/-! ## evaluation -/

/-- `k n`, with `n` evaluated first -/
def force {α : Type} (n : Nat) (k : Nat → α) : α :=
  match n with
  | 0 => k 0
  | m + 1 => k (m + 1)
