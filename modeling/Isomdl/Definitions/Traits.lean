import Isomdl.Definitions.Helpers
import Isomdl.Lib.BTreeMap

/-!
# From JSON and to CBOR (`definitions/traits/`)

`FromJson` reads a value of one JSON value, `FromJsonMap` one of the entries of an object;
`ToCbor` and `ToNamespaceMap` write it.  A reader stops with an error or in a panic.

* `fromJsonOpt_option`      an optional value reads an absent entry and `null` alike;
* `fromMap_option_eq_ok`    an optional value of an object is absent when its reader says `Missing`.
-/

set_option linter.unusedSectionVars false

namespace Isomdl

open Cbor

/-- `serde_json::Value` -/
inductive Json where
  | null
  | bool (b : Bool)
  | number (i : Int)
  | float (bits : UInt64)
  | string (s : String)
  | array (vs : List Json)
  | object (fields : List (String × Json))
  deriving Inhabited

/-- the names of the types in `FromJsonError::UnexpectedType` -/
def Json.typeName : Json → String
  | .null => "null"
  | .bool _ => "boolean"
  | .number _ | .float _ => "number"
  | .string _ => "string"
  | .array _ => "array"
  | .object _ => "object"

def Json.isNull : Json → Bool
  | .null => true
  | _ => false

@[simp] theorem Json.isNull_eq_false {v : Json} : v.isNull = false ↔ v ≠ .null := by
  cases v <;> simp [Json.isNull]

/-- `serde_json::Map` -/
abbrev JsonMap := BTreeMap String Json

/-- the object with the entries of a map -/
def Json.ofMap (map : JsonMap) : Json := .object map.toList

/-- the errors an `anyhow::Error` is made of here -/
inductive ParsingError where
  | NonLatin1 (chars : List Char)
  | TooLong (length : Nat)
  | Unrecognized (received : String)
  | UnrecognizedSex (received : UInt32)
  | VariantNotFound
  | CountryMismatch
  | Empty
  | message (text : String)

inductive FromJsonError where
  | ExpectedPositiveInteger
  | IntegerTooLarge
  | Multiple (errors : List FromJsonError)
  | Missing
  | Parsing (e : ParsingError)
  | UnexpectedType (received expected : String)
  | WithContext (field : String) (e : FromJsonError)

/-- what stops a reader: an error, or the panic of an `unwrap` -/
inductive Stop where
  | refused (e : FromJsonError)
  | panicked

abbrev Parsed (α : Type) := Except Stop α

def refuse {α : Type} (e : FromJsonError) : Parsed α := .error (.refused e)

def unexpected {α : Type} (v : Json) (expected : String) : Parsed α :=
  refuse (.UnexpectedType v.typeName expected)

/-- `map_err(FromJsonError::Parsing)` -/
def parsing {α : Type} : Except ParsingError α → Parsed α
  | .ok a => .ok a
  | .error e => refuse (.Parsing e)

/-! ## `from_json.rs` -/

class FromJson (α : Type) where
  fromJson : Json → Parsed α
  fromJsonOpt : Option Json → Parsed α := fun
    | none => refuse .Missing
    | some v => fromJson v

class FromJsonMap (α : Type) where
  fromMap : JsonMap → Parsed α

export FromJson (fromJson fromJsonOpt)
export FromJsonMap (fromMap)

instance : FromJson Bool where
  fromJson
    | .bool b => .ok b
    | v => unexpected v "boolean"

/-- `Number::as_u64` and the conversion to `u32` -/
def readU32 (i : Int) : Parsed UInt32 :=
  if 0 ≤ i ∧ i < 2 ^ 64 then
    if i < 2 ^ 32 then .ok (UInt32.ofNat i.toNat) else refuse .IntegerTooLarge
  else refuse .ExpectedPositiveInteger

instance : FromJson UInt32 where
  fromJson
    | .number i => readU32 i
    | .float _ => refuse .ExpectedPositiveInteger
    | v => unexpected v "number"

instance : FromJson String where
  fromJson
    | .string s => .ok s
    | v => unexpected v "string"

/-- `String::from_json(v)?.parse()`, with what `from_str` reports as a parsing error -/
def fromText {α : Type} (fromStr : String → Except ParsingError α) (v : Json) : Parsed α := do
  let s ← (fromJson v : Parsed String)
  parsing (fromStr s)

instance {α : Type} [FromJson α] : FromJson (List α) where
  fromJson
    | .array vs => vs.mapM fromJson
    | v => unexpected v "array"

instance {α : Type} [FromJson α] : FromJson (NonEmptyVec α) where
  fromJson v := do
    let l ← (fromJson v : Parsed (List α))
    match NonEmptyVec.tryFrom l with
    | some v => .ok v
    | none => refuse (.Parsing .Empty)

/-- `base64::decode`: the standard alphabet -/
class StandardBase64 where
  decode : String → Except String Bytes

instance [StandardBase64] : FromJson ByteStr where
  fromJson := fromText fun encoded =>
    (StandardBase64.decode encoded).map ByteStr.mk |>.mapError .message

instance {α : Type} [FromJson α] : FromJson (Option α) where
  fromJson
    | .null => .ok none
    | v => some <$> (fromJson v : Parsed α)
  fromJsonOpt
    | some .null => .ok none
    | some v => some <$> (fromJson v : Parsed α)
    | none => .ok none

/-- what is missing is `None` -/
def missingAsNone {α : Type} : Parsed α → Parsed (Option α)
  | .ok a => .ok (some a)
  | .error (.refused .Missing) => .ok none
  | .error e => .error e

instance {α : Type} [FromJsonMap α] : FromJsonMap (Option α) where
  fromMap map := missingAsNone (fromMap map)

/-- **An optional value reads an absent entry and `null` alike.** -/
theorem fromJsonOpt_option {α : Type} [FromJson α] (o : Option Json) :
    (fromJsonOpt o : Parsed (Option α)) = fromJsonOpt (o.filter fun v => !v.isNull) := by
  cases o with
  | none => rfl
  | some v => cases v <;> rfl

theorem fromJsonOpt_option_eq_ok {α : Type} [FromJson α] {o : Option Json} {x : Option α} :
    (fromJsonOpt o : Parsed (Option α)) = .ok x ↔
      (x = none ∧ (o = none ∨ o = some .null)) ∨
      ∃ v a, o = some v ∧ v ≠ .null ∧ x = some a ∧ (fromJson v : Parsed α) = .ok a := by
  have hread : ∀ v : Json, v ≠ .null → ((fromJsonOpt (some v) : Parsed (Option α)) = .ok x ↔
      ∃ a, x = some a ∧ (fromJson v : Parsed α) = .ok a) := by
    intro v hv
    have heq : (fromJsonOpt (some v) : Parsed (Option α)) = some <$> (fromJson v : Parsed α) := by
      cases v with
      | null => exact absurd rfl hv
      | _ => rfl
    rw [heq]
    cases (fromJson v : Parsed α) with
    | error e => simp [Functor.map, Except.map]
    | ok a => simp [Functor.map, Except.map, eq_comm]
  cases o with
  | none => simp [fromJsonOpt, eq_comm]
  | some v =>
    by_cases hv : v = .null
    · subst hv
      simp [fromJsonOpt, eq_comm]
    · rw [hread v hv]
      simp [hv]

theorem fromMap_option_eq_ok {α : Type} [FromJsonMap α] {map : JsonMap} {x : Option α} :
    (fromMap map : Parsed (Option α)) = .ok x ↔
      (x = none ∧ (fromMap map : Parsed α) = refuse .Missing) ∨
      ∃ a, x = some a ∧ (fromMap map : Parsed α) = .ok a := by
  have hdef : (fromMap map : Parsed (Option α)) = missingAsNone (fromMap map) := rfl
  rw [hdef]
  cases (fromMap map : Parsed α) with
  | ok a => simp [missingAsNone, refuse, eq_comm]
  | error e =>
    cases e with
    | panicked => simp [missingAsNone, refuse]
    | refused e => cases e <;> simp [missingAsNone, refuse, eq_comm]

/-! ## `to_cbor.rs` -/

class ToCbor (α : Type) where
  toCbor : α → Value

class ToNamespaceMap (α : Type) where
  toNsMap : α → BTreeMap String Value

export ToCbor (toCbor)
export ToNamespaceMap (toNsMap)

instance : ToCbor UInt32 := ⟨fun n => .ofUInt64 n.toUInt64⟩
instance : ToCbor String := ⟨.text⟩
instance : ToCbor Bool := ⟨.bool⟩
instance : ToCbor ByteStr := ⟨fun b => .bytes b.bytes⟩

end Isomdl
