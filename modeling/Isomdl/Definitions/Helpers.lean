import Isomdl.Cbor

/-!
# Wire helpers (`definitions/helpers/`)

`ByteStr` is a byte string, `NonEmptyVec` and `NonEmptyMap` carry the proof that they are not
empty, and `Tag24` is an embedded CBOR item that keeps the bytes it was decoded from.
-/

namespace Isomdl

open Cbor

/-! ## `bytestr.rs` -/

@[ext] structure ByteStr where
  bytes : Bytes
  deriving DecidableEq, Repr

instance : Serialize ByteStr := ⟨fun b => .ok (.bytes b.bytes)⟩

instance : Deserialize ByteStr where
  ofValue
    | .bytes bs => .ok ⟨bs⟩
    | _ => .error "Expected to parse a CBOR byte string"

/-- `str::strip_prefix` -/
def stripPrefix (start s : String) : Option String :=
  if start.toList <+: s.toList then some (String.ofList (s.toList.drop start.toList.length)) else none

theorem stripPrefix_append (start s : String) : stripPrefix start (start ++ s) = some s := by
  rw [stripPrefix, String.toList_append, if_pos (List.prefix_append _ _), List.drop_left,
    String.ofList_toList]

theorem stripPrefix_eq_some {start s rest : String} :
    stripPrefix start s = some rest ↔ start ++ rest = s := by
  constructor
  · intro h
    rw [stripPrefix] at h
    split at h
    · next hprefix =>
      cases h
      obtain ⟨l, hl⟩ := hprefix
      rw [← String.toList_inj, String.toList_append, String.toList_ofList, ← hl, List.drop_left]
    · cases h
  · rintro rfl
    exact stripPrefix_append start rest

/-! ## `non_empty_vec.rs`, `non_empty_map.rs` -/

structure NonEmptyVec (α : Type) where
  toList : List α
  nonempty : toList ≠ []

@[ext] theorem NonEmptyVec.ext {α : Type} {v w : NonEmptyVec α} (h : v.toList = w.toList) :
    v = w := by
  cases v; cases w; cases h; rfl

/-- `NonEmptyVec::new` -/
def NonEmptyVec.new {α : Type} (a : α) : NonEmptyVec α := ⟨[a], List.cons_ne_nil a []⟩

def NonEmptyVec.push {α : Type} (v : NonEmptyVec α) (a : α) : NonEmptyVec α :=
  ⟨v.toList ++ [a], by simp⟩

def NonEmptyVec.first {α : Type} (v : NonEmptyVec α) : α := v.toList.head v.nonempty

def NonEmptyVec.tryFrom {α : Type} (l : List α) : Option (NonEmptyVec α) :=
  if h : l ≠ [] then some ⟨l, h⟩ else none

theorem NonEmptyVec.tryFrom_toList {α : Type} (v : NonEmptyVec α) :
    NonEmptyVec.tryFrom v.toList = some v := by
  rw [tryFrom, dif_pos v.nonempty]

theorem NonEmptyVec.tryFrom_eq_some {α : Type} {l : List α} {v : NonEmptyVec α} :
    NonEmptyVec.tryFrom l = some v ↔ l = v.toList := by
  constructor
  · intro h
    rw [tryFrom] at h
    split at h
    · cases h; rfl
    · cases h
  · rintro rfl
    exact v.tryFrom_toList

instance {α : Type} [Serialize α] : Serialize (NonEmptyVec α) := ⟨fun v => toValue v.toList⟩

instance {α : Type} [Deserialize α] : Deserialize (NonEmptyVec α) where
  ofValue v := do
    let l ← (ofValue v : Except String (List α))
    match NonEmptyVec.tryFrom l with
    | some v => .ok v
    | none => .error "expected a non-empty array"

theorem NonEmptyVec.ofValue_array {α : Type} [Deserialize α] {g : α → Value} (v : NonEmptyVec α)
    (h : ∀ a ∈ v.toList, ofValue (g a) = .ok a) :
    (ofValue (.array (v.toList.map g)) : Except String (NonEmptyVec α)) = .ok v := by
  show ((ofValue (.array (v.toList.map g)) : Except String (List α)) >>= _) = _
  rw [Isomdl.ofValue_array h]
  show (match NonEmptyVec.tryFrom v.toList with | some v => _ | none => _) = _
  rw [v.tryFrom_toList]

structure NonEmptyMap (K V : Type) [Ord K] where
  toMap : BTreeMap K V
  nonempty : toMap ≠ ∅

@[ext] theorem NonEmptyMap.ext {K V : Type} [Ord K] {m n : NonEmptyMap K V}
    (h : m.toMap = n.toMap) : m = n := by
  cases m; cases n; cases h; rfl

section
variable {K V : Type} [Ord K] [Std.TransOrd K]

def NonEmptyMap.tryFrom (m : BTreeMap K V) : Option (NonEmptyMap K V) :=
  if h : m.isEmpty then none
  else some ⟨m, fun hm => h (Std.ExtTreeMap.isEmpty_iff.mpr hm)⟩

/-- `NonEmptyMap::insert` -/
def NonEmptyMap.insert (m : NonEmptyMap K V) (k : K) (v : V) : NonEmptyMap K V :=
  ⟨m.toMap.insert k v, Std.ExtTreeMap.insert_ne_empty⟩

/-- `NonEmptyMap::new` -/
def NonEmptyMap.new (k : K) (v : V) : NonEmptyMap K V :=
  ⟨(∅ : BTreeMap K V).insert k v, Std.ExtTreeMap.insert_ne_empty⟩

theorem NonEmptyMap.tryFrom_eq_some {m : BTreeMap K V} {n : NonEmptyMap K V} :
    NonEmptyMap.tryFrom m = some n ↔ m = n.toMap := by
  rw [tryFrom]
  constructor
  · intro h
    split at h
    · cases h
    · cases h; rfl
  · rintro rfl
    rw [dif_neg fun he => n.nonempty (Std.ExtTreeMap.isEmpty_iff.mp he)]

instance [Serialize K] [Serialize V] : Serialize (NonEmptyMap K V) := ⟨fun m => toValue m.toMap⟩

instance [Deserialize K] [Deserialize V] : Deserialize (NonEmptyMap K V) where
  ofValue v := do
    let m ← (ofValue v : Except String (BTreeMap K V))
    match NonEmptyMap.tryFrom m with
    | some m => .ok m
    | none => .error "cannot construct a non-empty vec from an empty vec"

theorem NonEmptyMap.ofValue_textMap {V : Type} [Deserialize V] {g : V → Value}
    (h : ∀ v, ofValue (g v) = .ok v) (m : NonEmptyMap String V) :
    (ofValue (.map (m.toMap.toList.map fun e => (.text e.1, g e.2))) :
      Except String (NonEmptyMap String V)) = .ok m := by
  show ((ofValue (.map (m.toMap.toList.map fun e => (.text e.1, g e.2))) :
    Except String (BTreeMap String V)) >>= _) = _
  rw [Isomdl.ofValue_textMap h, ok_bind, NonEmptyMap.tryFrom_eq_some.mpr rfl]

end

/-! ## `tag24.rs` -/

structure Tag24 (T : Type) where
  inner : T
  innerBytes : Bytes
  deriving DecidableEq, Repr

namespace Tag24

variable {T : Type}

inductive Error where
  | invalidTag24 (v : Value)
  | notATag24 (v : Value)
  | unableToEncode (e : CborError)
  | unableToDecode (e : CborError)

/-- the `Display` text; the two cases that print a whole item keep its fixed part -/
def Error.display : Error → String
  | .invalidTag24 _ => "Expected a CBOR byte string, received"
  | .notATag24 _ => "Expected a CBOR tagged data item with tag number 24, received"
  | .unableToEncode e => "Unable to encode value as CBOR: " ++ e.display
  | .unableToDecode e => "Unable to decode bytes to inner type: " ++ e.display

def toCbor (t : Tag24 T) : Value := .tag 24 (.bytes t.innerBytes)

section
variable [Ciborium]

def new [Serialize T] (inner : T) : Except Error (Tag24 T) :=
  (fun innerBytes => ⟨inner, innerBytes⟩) <$> (toVec inner).mapError .unableToEncode

def fromBytes [Deserialize T] (innerBytes : Bytes) : Except Error (Tag24 T) :=
  (fun inner => ⟨inner, innerBytes⟩) <$> (fromSlice T innerBytes).mapError .unableToDecode

def tryFromValue [Deserialize T] : Value → Except Error (Tag24 T)
  | .tag 24 (.bytes innerBytes) => fromBytes innerBytes
  | .tag 24 v => .error (.invalidTag24 v)
  | v => .error (.notATag24 v)

instance : Serialize (Tag24 T) := ⟨fun t => .ok t.toCbor⟩

instance [Deserialize T] : Deserialize (Tag24 T) := ⟨fun v => (tryFromValue v).mapError Error.display⟩

theorem new_ok [Serialize T] {inner : T} {t : Tag24 T} (h : new inner = .ok t) :
    t.inner = inner ∧ toVec inner = .ok t.innerBytes := by
  rw [new] at h
  cases hv : toVec inner with
  | error e =>
    rw [hv] at h
    cases h
  | ok bytes =>
    rw [hv] at h
    cases h
    exact ⟨rfl, rfl⟩

theorem new_of_toVec [Serialize T] {inner : T} {bytes : Bytes} (h : toVec inner = .ok bytes) :
    new inner = .ok ⟨inner, bytes⟩ := by
  rw [new, h]
  rfl

theorem toVec_eq (t : Tag24 T) : toVec t = .ok (Ciborium.intoWriter t.toCbor) := toVec_ok rfl

/-- **The bytes of an embedded item survive the wire.** -/
theorem ofValue_toCbor [Deserialize T] {t : Tag24 T} (h : fromSlice T t.innerBytes = .ok t.inner) :
    (ofValue t.toCbor : Except String (Tag24 T)) = .ok t := by
  have ht : (tryFromValue t.toCbor : Except Error (Tag24 T)) = .ok t := by
    show fromBytes t.innerBytes = _
    rw [fromBytes, h]
    rfl
  show (tryFromValue t.toCbor : Except Error (Tag24 T)).mapError Error.display = _
  rw [ht]
  rfl

end

end Tag24

end Isomdl
