import Isomdl.Lib.Machine

/-!
# CBOR data items

`Value` is one data item, as a decoder hands it to a program: the entries of a map in wire
order, duplicates included, and a float as its bits.  `Value.Plain` bounds how deep an item nests,
and `Value.int?` and its siblings read an item of one major type.
-/

namespace Cbor

/-- the integers of major types 0 and 1 -/
abbrev Integer := {i : Int // -(2 ^ 64) ≤ i ∧ i < 2 ^ 64}

inductive Value where
  | integer (i : Integer)
  | bytes (bs : Bytes)
  | float (bits : UInt64)
  | text (s : String)
  | bool (b : Bool)
  | null
  | tag (t : UInt64) (v : Value)
  | array (vs : List Value)
  | map (kvs : List (Value × Value))
  deriving Inhabited

namespace Value

/-- an integer literal -/
abbrev int (i : Int) (h : decide (-(2 ^ 64) ≤ i ∧ i < 2 ^ 64) = true := by exact Eq.refl true) :
    Value :=
  .integer ⟨i, of_decide_eq_true h⟩

def ofUInt64 (n : UInt64) : Value :=
  .integer ⟨n.toNat, by have := n.toNat_lt; omega⟩

def ofInt32 (n : Int32) : Value :=
  .integer ⟨n.toInt, by have := n.le_toInt; have := n.toInt_lt; omega⟩

/-! ## equality of items -/

mutual

def beq : Value → Value → Bool
  | .integer i, .integer j => i == j
  | .bytes a, .bytes b => a == b
  | .float a, .float b => a == b
  | .text a, .text b => a == b
  | .bool a, .bool b => a == b
  | .null, .null => true
  | .tag s v, .tag t w => s == t && beq v w
  | .array vs, .array ws => beqList vs ws
  | .map vs, .map ws => beqEntries vs ws
  | _, _ => false

def beqList : List Value → List Value → Bool
  | [], [] => true
  | v :: vs, w :: ws => beq v w && beqList vs ws
  | _, _ => false

def beqEntries : List (Value × Value) → List (Value × Value) → Bool
  | [], [] => true
  | (k, v) :: vs, (l, w) :: ws => beq k l && beq v w && beqEntries vs ws
  | _, _ => false

end

mutual

theorem beq_iff : ∀ v w : Value, beq v w = true ↔ v = w
  | .integer i, w => by cases w <;> simp [beq, Subtype.ext_iff]
  | .bytes a, w => by cases w <;> simp [beq]
  | .float a, w => by cases w <;> simp [beq]
  | .text a, w => by cases w <;> simp [beq]
  | .bool a, w => by cases w <;> simp [beq]
  | .null, w => by cases w <;> simp [beq]
  | .tag s v, w => by
    cases w with
    | tag t w => simp [beq, beq_iff v w]
    | _ => simp [beq]
  | .array vs, w => by
    cases w with
    | array ws => simp [beq, beqList_iff vs ws]
    | _ => simp [beq]
  | .map vs, w => by
    cases w with
    | map ws => simp [beq, beqEntries_iff vs ws]
    | _ => simp [beq]

theorem beqList_iff : ∀ vs ws : List Value, beqList vs ws = true ↔ vs = ws
  | [], ws => by cases ws <;> simp [beqList]
  | v :: vs, ws => by
    cases ws with
    | nil => simp [beqList]
    | cons w ws => simp [beqList, beq_iff v w, beqList_iff vs ws]

theorem beqEntries_iff : ∀ vs ws : List (Value × Value), beqEntries vs ws = true ↔ vs = ws
  | [], ws => by cases ws <;> simp [beqEntries]
  | (k, v) :: vs, ws => by
    cases ws with
    | nil => simp [beqEntries]
    | cons w ws =>
      obtain ⟨l, w⟩ := w
      simp [beqEntries, beq_iff k l, beq_iff v w, beqEntries_iff vs ws, and_assoc]

end

instance : DecidableEq Value := fun v w => decidable_of_iff _ (beq_iff v w)

/-! ## plain items -/

/-- no floats, no bignums, and arrays, maps and tags at most `n` deep -/
def Plain : Nat → Value → Prop
  | _, .integer _ => True
  | _, .bytes _ => True
  | _, .float _ => False
  | _, .text _ => True
  | _, .bool _ => True
  | _, .null => True
  | 0, .tag _ _ => False
  | 0, .array _ => False
  | 0, .map _ => False
  | n + 1, .tag t v => t ≠ 2 ∧ t ≠ 3 ∧ Plain n v
  | n + 1, .array vs => ∀ v ∈ vs, Plain n v
  | n + 1, .map kvs => ∀ e ∈ kvs, Plain n e.1 ∧ Plain n e.2

section
variable (n : Nat)

@[simp] theorem plain_integer (i : Integer) : Plain n (.integer i) := by cases n <;> exact trivial
@[simp] theorem plain_bytes (bs : Bytes) : Plain n (.bytes bs) := by cases n <;> exact trivial
@[simp] theorem plain_text (s : String) : Plain n (.text s) := by cases n <;> exact trivial
@[simp] theorem plain_bool (b : Bool) : Plain n (.bool b) := by cases n <;> exact trivial
@[simp] theorem plain_null : Plain n .null := by cases n <;> exact trivial
@[simp] theorem plain_ofUInt64 (i : UInt64) : Plain n (ofUInt64 i) := plain_integer n _

@[simp] theorem plain_tag (t : UInt64) (v : Value) :
    Plain (n + 1) (.tag t v) ↔ t ≠ 2 ∧ t ≠ 3 ∧ Plain n v := Iff.rfl

@[simp] theorem plain_array (vs : List Value) :
    Plain (n + 1) (.array vs) ↔ ∀ v ∈ vs, Plain n v := Iff.rfl

@[simp] theorem plain_map (kvs : List (Value × Value)) :
    Plain (n + 1) (.map kvs) ↔ ∀ e ∈ kvs, Plain n e.1 ∧ Plain n e.2 := Iff.rfl

end

/-- an item that nests at most `n` deep nests at most `n + 1` deep -/
theorem Plain.succ {n : Nat} {v : Value} (h : v.Plain n) : v.Plain (n + 1) := by
  induction n generalizing v with
  | zero =>
    cases v with
    | float bits => exact h
    | tag t v => exact h.elim
    | array vs => exact h.elim
    | map kvs => exact h.elim
    | _ => trivial
  | succ n ih =>
    cases v with
    | float bits => exact h
    | tag t v => exact ⟨h.1, h.2.1, ih h.2.2⟩
    | array vs => exact fun v hv => ih (h v hv)
    | map kvs => exact fun e he => ⟨ih (h e he).1, ih (h e he).2⟩
    | _ => trivial

theorem Plain.mono {m n : Nat} {v : Value} (h : v.Plain m) (hle : m ≤ n) : v.Plain n := by
  induction hle with
  | refl => exact h
  | step _ ih => exact ih.succ

/-! ## items alike up to floats and bignums -/

mutual

/-- the second item is the first, with other floats and other readings of its bignums -/
def Similar : Value → Value → Prop
  | .float _, w => ∃ bits, w = .float bits
  | .tag t v, w => t = 2 ∨ t = 3 ∨ ∃ v', w = .tag t v' ∧ Similar v v'
  | .array vs, w => ∃ ws, w = .array ws ∧ SimilarList vs ws
  | .map kvs, w => ∃ ws, w = .map ws ∧ SimilarEntries kvs ws
  | .integer i, w => w = .integer i
  | .bytes bs, w => w = .bytes bs
  | .text s, w => w = .text s
  | .bool b, w => w = .bool b
  | .null, w => w = .null

def SimilarList : List Value → List Value → Prop
  | [], ws => ws = []
  | v :: vs, ws => ∃ w ws', ws = w :: ws' ∧ Similar v w ∧ SimilarList vs ws'

def SimilarEntries : List (Value × Value) → List (Value × Value) → Prop
  | [], ws => ws = []
  | (k, v) :: vs, ws => ∃ l w ws', ws = (l, w) :: ws' ∧ Similar k l ∧ Similar v w ∧
    SimilarEntries vs ws'

end

mutual

theorem Similar.refl : ∀ v : Value, Similar v v
  | .integer i => by rw [Similar]
  | .bytes bs => by rw [Similar]
  | .float bits => by rw [Similar]; exact ⟨bits, rfl⟩
  | .text s => by rw [Similar]
  | .bool b => by rw [Similar]
  | .null => by rw [Similar]
  | .tag t v => by rw [Similar]; exact .inr (.inr ⟨v, rfl, Similar.refl v⟩)
  | .array vs => by rw [Similar]; exact ⟨vs, rfl, SimilarList.refl vs⟩
  | .map kvs => by rw [Similar]; exact ⟨kvs, rfl, SimilarEntries.refl kvs⟩

theorem SimilarList.refl : ∀ vs : List Value, SimilarList vs vs
  | [] => by rw [SimilarList]
  | v :: vs => by rw [SimilarList]; exact ⟨v, vs, rfl, Similar.refl v, SimilarList.refl vs⟩

theorem SimilarEntries.refl : ∀ kvs : List (Value × Value), SimilarEntries kvs kvs
  | [] => by rw [SimilarEntries]
  | (k, v) :: kvs => by
    rw [SimilarEntries]
    exact ⟨k, v, kvs, rfl, Similar.refl k, Similar.refl v, SimilarEntries.refl kvs⟩

end

/-! ## reading one major type -/

def int? : Value → Option Int
  | .integer i => some i.1
  | _ => none

def bytes? : Value → Option Bytes
  | .bytes bs => some bs
  | _ => none

def text? : Value → Option String
  | .text s => some s
  | _ => none

/-! ## reading through tags -/

/-- the item under all its tags -/
def untagged : Value → Value
  | .tag _ v => untagged v
  | v => v

/-- a bignum of at most 16 bytes, leading zeros aside -/
def bignum? : Value → Option Nat
  | .bytes bs =>
    if (bs.dropWhile (· == 0)).length ≤ 16 then some (ofBe (bs.dropWhile (· == 0))) else none
  | _ => none

/-- an integer under tags, or a bignum (tags 2 and 3) -/
def integer? : Value → Option Int
  | .integer i => some i.1
  | .tag t v =>
    if t = 2 then (bignum? v).map fun n => (n : Int)
    else if t = 3 then (bignum? v).map fun n => -1 - (n : Int)
    else integer? v
  | _ => none

end Value

end Cbor
