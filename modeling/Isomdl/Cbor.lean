import Isomdl.Lib.BTreeMap
import Isomdl.Lib.Cbor.Value

/-!
# The CBOR boundary (`cbor.rs`)

The `ciborium` crate is a parameter: `intoWriter` writes one data item and `fromReader` reads
one from the front of a slice.  A Rust type with a serde implementation is a Lean type with
`Serialize` or `Deserialize`, which go through the data item.  As in `ciborium`, a type that does
not ask for its tag reads through tags.

* `toVec`, `fromSlice`, `fromValue`       functions of `cbor.rs`;
* `structEntries`, `Fields`               what `#[derive(Serialize, Deserialize)]` makes of a struct
                                          with named fields;
* `LawfulCiborium.fromSlice_intoWriter`   what is written is read back.
-/

namespace Isomdl

open Cbor

/-- the `ciborium` crate -/
class Ciborium where
  intoWriter : Value → Bytes
  fromReader : Bytes → Except String Value

/-- the variants of `coset::CoseError` the code builds -/
inductive CoseError where
  | encodeFailed
  | decodeFailed (semantic : String)
  deriving DecidableEq, Repr

/-- `CborError` wraps a `CoseError` and displays it through its `Debug` text -/
structure CborError where
  inner : CoseError
  deriving DecidableEq, Repr

def CborError.display (e : CborError) : String :=
  match e.inner with
  | .encodeFailed => "encode CBOR failure"
  | .decodeFailed semantic => "decode CBOR failure: Semantic(None, " ++ reprStr semantic ++ ")"

/-! ## serde -/

class Serialize (α : Type) where
  toValue : α → Except String Value

class Deserialize (α : Type) where
  ofValue : Value → Except String α

export Serialize (toValue)
export Deserialize (ofValue)

/-- a struct as a map with text keys; a field that is skipped contributes no entry -/
def structEntries : List (String × Option (Except String Value)) → Except String (List (Value × Value))
  | [] => .ok []
  | (_, none) :: fields => structEntries fields
  | (name, some v) :: fields => do
    let v ← v
    let entries ← structEntries fields
    .ok ((.text name, v) :: entries)

def structValue (fields : List (String × Option (Except String Value))) : Except String Value :=
  Value.map <$> structEntries fields

/-- a field name on the wire, as text or as its bytes -/
def isField (name : String) : Value → Bool
  | .text s => s == name
  | .bytes bs => bs == name.toUTF8.data.toList
  | _ => false

/-- the entries of the map a struct is read from -/
abbrev Fields := List (Value × Value)

namespace Fields

/-- unknown keys are ignored and a repeated field is an error -/
def find? (fields : Fields) (name : String) : Except String (Option Value) :=
  match fields.filter fun e => isField name e.1 with
  | [] => .ok none
  | [e] => .ok (some e.2)
  | _ => .error ("duplicate field `" ++ name ++ "`")

def required (fields : Fields) (name : String) (α : Type) [Deserialize α] : Except String α := do
  match ← fields.find? name with
  | none => .error ("missing field `" ++ name ++ "`")
  | some v => ofValue v

/-- an `Option` field: absent and `null` both read as `None` -/
def optional (fields : Fields) (name : String) (α : Type) [Deserialize α] :
    Except String (Option α) := do
  match ← fields.find? name with
  | none => .ok none
  | some .null => .ok none
  | some v => some <$> ofValue v

def ofValue (name : String) (v : Value) : Except String Fields :=
  match v.untagged with
  | .map entries =>
    if entries.all fun e => e.1.text?.isSome || e.1.bytes?.isSome then .ok entries
    else .error "invalid type: expected str or bytes"
  | _ => .error ("invalid type: expected struct " ++ name)

end Fields

/-! ## a struct reads back -/

theorem structEntries_present (l : List (String × Option Value)) :
    structEntries (l.map fun e => (e.1, e.2.map .ok)) =
      .ok ((BTreeMap.present l).map fun e => (.text e.1, e.2)) := by
  induction l with
  | nil => rfl
  | cons e l ih =>
    obtain ⟨name, o⟩ := e
    cases o with
    | none => exact ih
    | some v =>
      rw [List.map_cons]
      show (structEntries (l.map fun e => (e.1, e.2.map .ok)) >>= fun entries =>
        .ok ((.text name, v) :: entries)) = _
      rw [ih]
      rfl

theorem structValue_present (l : List (String × Option Value)) :
    structValue (l.map fun e => (e.1, e.2.map .ok)) =
      .ok (.map ((BTreeMap.present l).map fun e => (.text e.1, e.2))) := by
  rw [structValue, structEntries_present]
  rfl

theorem filter_isField_of_notMem {l : List (String × Option Value)} {name : String}
    (h : name ∉ l.map Prod.fst) :
    ((BTreeMap.present l).map fun e => (Value.text e.1, e.2)).filter
      (fun e => isField name e.1) = [] := by
  rw [List.filter_eq_nil_iff]
  intro e he
  rw [List.mem_map] at he
  obtain ⟨⟨k, v⟩, hmem, heq⟩ := he
  rw [← heq]
  intro hname
  have hk : k = name := by simpa [isField] using hname
  exact h (List.mem_map.mpr ⟨(k, some v), BTreeMap.mem_present.mp hmem, hk⟩)

/-- **A field of a struct is found among the entries that were written.** -/
theorem Fields.find?_present {l : List (String × Option Value)} (hl : (l.map Prod.fst).Nodup)
    {name : String} {o : Option Value} (h : (name, o) ∈ l) :
    Fields.find? ((BTreeMap.present l).map fun e => (.text e.1, e.2)) name = .ok o := by
  suffices hf : ((BTreeMap.present l).map fun e => (Value.text e.1, e.2)).filter
      (fun e => isField name e.1) = (o.map fun v => (Value.text name, v)).toList by
    rw [Fields.find?, hf]
    cases o <;> rfl
  induction l with
  | nil => cases h
  | cons e l ih =>
    obtain ⟨k, x⟩ := e
    rw [List.map_cons, List.nodup_cons] at hl
    obtain ⟨hk, hl⟩ := hl
    cases List.mem_cons.mp h with
    | inl heq =>
      cases heq
      have hrest := filter_isField_of_notMem hk
      cases o with
      | none => exact hrest
      | some v =>
        have hfield : isField name (.text name) = true := by simp [isField]
        rw [BTreeMap.present, List.map_cons, List.filter_cons, if_pos hfield, hrest]
        rfl
    | inr hmem =>
      have hne : k ≠ name := by
        intro heq
        exact hk (List.mem_map.mpr ⟨(name, o), hmem, heq.symm⟩)
      have hrest := ih hl hmem
      cases x with
      | none => exact hrest
      | some v =>
        have hfield : isField name (.text k) = false := by simp [isField, hne]
        rw [BTreeMap.present, List.map_cons, List.filter_cons, hfield]
        exact hrest

theorem Fields.ofValue_present (name : String) (l : List (String × Option Value)) :
    Fields.ofValue name (.map ((BTreeMap.present l).map fun e => (.text e.1, e.2))) =
      .ok ((BTreeMap.present l).map fun e => (.text e.1, e.2)) := by
  simp only [Fields.ofValue, Value.untagged]
  exact if_pos (by simp [Value.text?])

theorem Fields.required_present {l : List (String × Option Value)} (hl : (l.map Prod.fst).Nodup)
    {name : String} {α : Type} [Deserialize α] {v : Value} {a : α} (h : (name, some v) ∈ l)
    (ha : Deserialize.ofValue v = .ok a) :
    Fields.required ((BTreeMap.present l).map fun e => (.text e.1, e.2)) name α = .ok a := by
  rw [Fields.required, Fields.find?_present hl h]
  exact ha

theorem Fields.optional_present {l : List (String × Option Value)} (hl : (l.map Prod.fst).Nodup)
    {name : String} {α : Type} [Deserialize α] {o : Option Value} {a : Option α}
    (h : (name, o) ∈ l)
    (ha : (o = none ∧ a = none) ∨
      ∃ v b, o = some v ∧ v ≠ .null ∧ a = some b ∧ Deserialize.ofValue v = .ok b) :
    Fields.optional ((BTreeMap.present l).map fun e => (.text e.1, e.2)) name α = .ok a := by
  rw [Fields.optional, Fields.find?_present hl h]
  cases ha with
  | inl hnone =>
    obtain ⟨ho, ha⟩ := hnone
    rw [ho, ha]
    rfl
  | inr hsome =>
    obtain ⟨v, b, ho, hv, ha, hb⟩ := hsome
    rw [ho, ha]
    cases v with
    | null => exact absurd rfl hv
    | _ =>
      show some <$> Deserialize.ofValue _ = _
      rw [hb]
      rfl

theorem plain_present {n : ℕ} {l : List (String × Option Value)}
    (h : ∀ e ∈ l, ∀ v, e.2 = some v → v.Plain n) :
    (Value.map ((BTreeMap.present l).map fun e => (.text e.1, e.2))).Plain (n + 1) := by
  rw [Value.plain_map]
  intro e he
  obtain ⟨⟨k, v⟩, hmem, rfl⟩ := List.mem_map.mp he
  exact ⟨Value.plain_text n k, h _ (BTreeMap.mem_present.mp hmem) v rfl⟩

/-! ## instances -/

instance : Serialize Value := ⟨.ok⟩
instance : Deserialize Value := ⟨.ok⟩
instance : Serialize String := ⟨fun s => .ok (.text s)⟩

instance : Deserialize String where
  ofValue v :=
    match v.untagged with
    | .text s => .ok s
    | _ => .error "invalid type: expected a string"

instance : Serialize Bool := ⟨fun b => .ok (.bool b)⟩

instance : Deserialize Bool where
  ofValue v :=
    match v.untagged with
    | .bool b => .ok b
    | _ => .error "invalid type: expected a boolean"

/-- an integer of a bounded type -/
def boundedInt (lo hi : Int) (v : Value) : Except String Int :=
  match v.integer? with
  | some i => if lo ≤ i ∧ i ≤ hi then .ok i else .error "integer out of range"
  | none => .error "invalid type: expected integer"

instance : Serialize UInt64 := ⟨fun n => .ok (Value.ofUInt64 n)⟩

instance : Deserialize UInt64 :=
  ⟨fun v => (fun i => UInt64.ofNat i.toNat) <$> boundedInt 0 (2 ^ 64 - 1) v⟩

instance : Serialize Int64 :=
  ⟨fun i => .ok (.integer ⟨i.toInt, by have := i.le_toInt; have := i.toInt_lt; omega⟩)⟩

instance : Deserialize Int64 :=
  ⟨fun v => Int64.ofInt <$> boundedInt (-(2 ^ 63)) (2 ^ 63 - 1) v⟩

instance {α : Type} [Serialize α] : Serialize (List α) where
  toValue l := Value.array <$> l.mapM toValue

instance {α : Type} [Deserialize α] : Deserialize (List α) where
  ofValue v :=
    match v.untagged with
    | .array vs => vs.mapM ofValue
    | _ => .error "invalid type: expected a sequence"

instance {K V : Type} [Ord K] [Serialize K] [Serialize V] [Std.TransOrd K] :
    Serialize (BTreeMap K V) where
  toValue m := Value.map <$> m.toList.mapM fun (k, v) => do
    let k ← toValue k
    let v ← toValue v
    .ok (k, v)

/-- the last entry counts when a key repeats -/
instance {K V : Type} [Ord K] [Deserialize K] [Deserialize V] [Std.TransOrd K] :
    Deserialize (BTreeMap K V) where
  ofValue v :=
    match v.untagged with
    | .map entries => do
      let entries ← entries.mapM fun (k, v) => do
        let k ← ofValue k
        let v ← ofValue v
        .ok (k, v)
      .ok (Std.ExtTreeMap.ofList entries compare)
    | _ => .error "invalid type: expected a map"

theorem ok_bind {E α β : Type} (a : α) (f : α → Except E β) : (Except.ok a >>= f) = f a := rfl

theorem mapM_map_ok {E α β : Type} {f : β → Except E α} {g : α → β} {l : List α}
    (h : ∀ a ∈ l, f (g a) = .ok a) : (l.map g).mapM f = .ok l := by
  induction l with
  | nil => rfl
  | cons a l ih =>
    rw [List.map_cons, List.mapM_cons, h a List.mem_cons_self,
      ih fun b hb => h b (List.mem_cons_of_mem a hb)]
    rfl

/-- **A list is written as its elements.** -/
theorem toValue_array {α : Type} [Serialize α] {g : α → Value} {l : List α}
    (h : ∀ a ∈ l, toValue a = .ok (g a)) : toValue l = .ok (.array (l.map g)) := by
  have hmap : l.mapM toValue = Except.ok (l.map g) := by
    induction l with
    | nil => rfl
    | cons a l ih =>
      rw [List.mapM_cons, h a List.mem_cons_self, ih fun b hb => h b (List.mem_cons_of_mem a hb)]
      rfl
  show Value.array <$> l.mapM toValue = _
  rw [hmap]
  rfl

/-- **A list reads back when its elements do.** -/
theorem ofValue_array {α : Type} [Deserialize α] {g : α → Value} {l : List α}
    (h : ∀ a ∈ l, ofValue (g a) = .ok a) :
    (ofValue (.array (l.map g)) : Except String (List α)) = .ok l := mapM_map_ok h

/-- **A map with text keys is written as its entries, in order.** -/
theorem toValue_textMap {V : Type} [Serialize V] {g : V → Value} (h : ∀ v, toValue v = .ok (g v))
    (m : BTreeMap String V) :
    toValue m = .ok (.map (m.toList.map fun e => (.text e.1, g e.2))) := by
  have hentries (l : List (String × V)) :
      (l.mapM fun (k, v) => do
        let k ← (toValue k : Except String Value)
        let v ← toValue v
        .ok (k, v)) = .ok (l.map fun e => (Value.text e.1, g e.2)) := by
    induction l with
    | nil => rfl
    | cons e l ih =>
      rw [List.mapM_cons, ih, List.map_cons]
      show ((toValue e.2 >>= fun v => .ok (Value.text e.1, v)) >>= fun x => _) = _
      rw [h]
      rfl
  show Value.map <$> m.toList.mapM _ = _
  rw [hentries]
  rfl

/-- **A map with text keys reads back when its values do.** -/
theorem ofValue_textMap {V : Type} [Deserialize V] {g : V → Value} (h : ∀ v, ofValue (g v) = .ok v)
    (m : BTreeMap String V) :
    (ofValue (.map (m.toList.map fun e => (.text e.1, g e.2))) : Except String (BTreeMap String V)) =
      .ok m := by
  have hentries := mapM_map_ok
    (f := fun p : Value × Value => do
      let k ← (ofValue p.1 : Except String String)
      let v ← (ofValue p.2 : Except String V)
      .ok (k, v))
    (g := fun e : String × V => (Value.text e.1, g e.2)) (l := m.toList) (fun e _ => by
      show (ofValue (g e.2) >>= fun v => .ok (e.1, v)) = Except.ok e
      rw [h]
      rfl)
  show (List.mapM _ _ >>= fun entries => Except.ok (Std.ExtTreeMap.ofList entries compare)) = _
  rw [hentries]
  exact congrArg Except.ok (BTreeMap.ofList_toList m)

/-! ## the functions of `cbor.rs` -/

section
variable [Ciborium]

def toVec {α : Type} [Serialize α] (value : α) : Except CborError Bytes :=
  match toValue value with
  | .ok v => .ok (Ciborium.intoWriter v)
  | .error _ => .error ⟨.encodeFailed⟩

def fromSlice (α : Type) [Deserialize α] (slice : Bytes) : Except CborError α :=
  match Ciborium.fromReader slice >>= ofValue with
  | .ok v => .ok v
  | .error e => .error ⟨.decodeFailed e⟩

def fromValue (α : Type) [Deserialize α] (value : Value) : Except CoseError α :=
  match ofValue value with
  | .ok v => .ok v
  | .error _ => .error (.decodeFailed "cannot deserialize")

end

/-- `ciborium` reads back what it wrote, within its recursion limit -/
class LawfulCiborium extends Ciborium where
  fromReader_intoWriter (v : Value) : v.Plain 16 → fromReader (intoWriter v) = .ok v

theorem toVec_ok [Ciborium] {α : Type} [Serialize α] {value : α} {v : Value}
    (h : toValue value = .ok v) : toVec value = .ok (Ciborium.intoWriter v) := by
  rw [toVec, h]

theorem toVec_eq_ok [Ciborium] {α : Type} [Serialize α] {value : α} {bytes : Bytes}
    (h : toVec value = .ok bytes) : ∃ v, toValue value = .ok v ∧ Ciborium.intoWriter v = bytes := by
  rw [toVec] at h
  split at h
  · next v hv => exact ⟨v, hv, Except.ok.inj h⟩
  · cases h

theorem fromSlice_eq_ok [Ciborium] {α : Type} [Deserialize α] {slice : Bytes} {value : α}
    (h : fromSlice α slice = .ok value) :
    ∃ v, Ciborium.fromReader slice = .ok v ∧ ofValue v = .ok value := by
  rw [fromSlice] at h
  cases hv : Ciborium.fromReader slice with
  | error e =>
    rw [hv] at h
    cases h
  | ok v =>
    rw [hv, ok_bind] at h
    cases hvalue : (ofValue v : Except String α) with
    | error e =>
      rw [hvalue] at h
      cases h
    | ok value' =>
      rw [hvalue] at h
      cases h
      exact ⟨v, rfl, hvalue⟩

/-- **A value whose data item reads back is read back from its bytes.** -/
theorem LawfulCiborium.fromSlice_intoWriter [LawfulCiborium] {α : Type} [Deserialize α]
    {value : α} {v : Value} (hv : v.Plain 16) (h : ofValue v = .ok value) :
    fromSlice α (Ciborium.intoWriter v) = .ok value := by
  have hread : (Ciborium.fromReader (Ciborium.intoWriter v) >>= ofValue) = .ok value := by
    rw [LawfulCiborium.fromReader_intoWriter v hv]
    exact h
  rw [fromSlice, hread]

/-- **Two data items with the same bytes are the same**, within the recursion limit. -/
theorem LawfulCiborium.eq_of_intoWriter_eq [LawfulCiborium] {v v' : Value} (hv : v.Plain 16)
    (hv' : v'.Plain 16) (h : Ciborium.intoWriter v = Ciborium.intoWriter v') : v = v' := by
  have hread := LawfulCiborium.fromReader_intoWriter v hv
  rw [h, LawfulCiborium.fromReader_intoWriter v' hv'] at hread
  exact (Except.ok.inj hread).symm

end Isomdl
