import Isomdl.Definitions.DeviceKey

/-!
# The mobile security object (`definitions/mso.rs`, `definitions/validity_info.rs`)

`Mso` is what an issuer signs: for every namespace the digests of its items, under
`DigestId`s.  A `DigestId` is an `i32` that `DigestId.new` makes non-negative.
-/

namespace Isomdl

open Cbor

/-! ## `DigestId` -/

structure DigestId where
  toInt32 : Int32
  deriving DecidableEq, Repr

instance : Ord DigestId := ⟨compareOn DigestId.toInt32⟩

instance : Std.TransOrd DigestId := inferInstanceAs (Std.TransCmp (compareOn DigestId.toInt32))

instance : Std.LawfulEqOrd DigestId where
  eq_of_compare {a b} h := by
    have h' : a.toInt32 = b.toInt32 := Std.LawfulEqOrd.eq_of_compare h
    cases a; cases b; cases h'; rfl

/-- negation wraps, as in a release build -/
def DigestId.new (i : Int32) : DigestId := ⟨if i < 0 then -i else i⟩

instance : Serialize DigestId := ⟨fun d => .ok (Value.ofInt32 d.toInt32)⟩

/-- the derived implementation: any `i32` -/
instance : Deserialize DigestId :=
  ⟨fun v => (fun i => ⟨Int32.ofInt i⟩) <$> boundedInt (-(2 ^ 31)) (2 ^ 31 - 1) v⟩

abbrev DigestIds := BTreeMap DigestId ByteStr

/-! ## `DigestAlgorithm` -/

inductive DigestAlgorithm where
  | SHA256
  | SHA384
  | SHA512
  deriving DecidableEq, Repr

def DigestAlgorithm.name : DigestAlgorithm → String
  | .SHA256 => "SHA-256"
  | .SHA384 => "SHA-384"
  | .SHA512 => "SHA-512"

instance : Serialize DigestAlgorithm := ⟨fun a => .ok (.text a.name)⟩

instance : Deserialize DigestAlgorithm where
  ofValue v :=
    match v.untagged with
    | .text s =>
      if s = "SHA-256" then .ok .SHA256
      else if s = "SHA-384" then .ok .SHA384
      else if s = "SHA-512" then .ok .SHA512
      else .error "unknown variant, expected one of `SHA-256`, `SHA-384`, `SHA-512`"
    | _ => .error "invalid type: expected enum"

/-! ## `validity_info.rs` -/

/-- `time::OffsetDateTime`: an instant and the offset it is shown in -/
structure OffsetDateTime where
  unixSeconds : Int
  nanosecond : Nat
  offsetSeconds : Int
  deriving DecidableEq, Repr

/-- the `time` crate: `format(&Rfc3339)` and `parse(_, &Rfc3339)`, `replace_millisecond`, and
`to_offset(UtcOffset::UTC)`, which is `none` where it panics -/
class Rfc3339 where
  format : OffsetDateTime → Except String String
  parse : String → Except String OffsetDateTime
  replaceMillisecond : OffsetDateTime → Nat → Except String OffsetDateTime
  toOffsetUtc : OffsetDateTime → Option OffsetDateTime

structure ValidityInfo where
  signed : OffsetDateTime
  validFrom : OffsetDateTime
  validUntil : OffsetDateTime
  expectedUpdate : Option OffsetDateTime
  deriving DecidableEq, Repr

/-- how an encoding stops: with an error, or in the panic of `to_offset` -/
inductive EncodeStop where
  | failed (message : String)
  | panicked
  deriving DecidableEq, Repr

namespace ValidityInfo

/-- the dates that `insert_date!` is called on, under their names -/
def dates (v : ValidityInfo) : List (String × OffsetDateTime) :=
  [("signed", v.signed), ("validFrom", v.validFrom), ("validUntil", v.validUntil)] ++
    v.expectedUpdate.toList.map fun t => ("expectedUpdate", t)

variable [Rfc3339]

/-- the `insert_date!` macro -/
def insertDate (date : String × OffsetDateTime) : Except EncodeStop (Value × Value) := do
  let t ← (Rfc3339.replaceMillisecond date.2 0).mapError .failed
  match Rfc3339.toOffsetUtc t with
  | none => .error .panicked
  | some t => do
    let s ← (Rfc3339.format t).mapError .failed
    .ok (.text date.1, .tag 0 (.text s))

/-- `TryFrom<ValidityInfo> for ciborium::Value` -/
def encode (v : ValidityInfo) : Except EncodeStop Value :=
  Value.map <$> v.dates.mapM insertDate

end ValidityInfo

/-- a serializer that panics gives no value, as one that fails -/
def EncodeStop.message : EncodeStop → String
  | .failed message => message
  | .panicked => "local datetime out of valid range"

section
variable [Rfc3339]

instance : Serialize ValidityInfo where
  toValue v := v.encode.mapError EncodeStop.message

/-- `cbor_to_datetime` -/
def cborToDatetime : Value → Except String OffsetDateTime
  | .tag 0 (.text dateStr) => Rfc3339.parse dateStr
  | .tag 0 _ => .error "Expected to parse a CBOR text string, received"
  | _ => .error "Expected to parse a CBOR tag (number 0), received"

/-- the keys of a map as strings: `k.into_text()` -/
def textKeys : List (Value × Value) → Except String (List (String × Value))
  | [] => .ok []
  | (k, v) :: entries =>
    match k.text? with
    | none => .error "Could not serialize to cbor"
    | some s => do
      let rest ← textKeys entries
      .ok ((s, v) :: rest)

/-- the `extract_date!` macro -/
def extractDate (map : BTreeMap String Value) (name : String) : Except String OffsetDateTime :=
  match map[name]? with
  | none => .error "When parsing a CBOR map, could not find required field"
  | some v => cborToDatetime v

instance : Deserialize ValidityInfo where
  ofValue
    | .map entries => do
      let entries ← textKeys entries
      let map : BTreeMap String Value := Std.ExtTreeMap.ofList entries compare
      let signed ← extractDate map "signed"
      let validFrom ← extractDate map "validFrom"
      let validUntil ← extractDate map "validUntil"
      let expectedUpdate ←
        match map["expectedUpdate"]? with
        | none => .ok none
        | some v => some <$> cborToDatetime v
      .ok { signed, validFrom, validUntil, expectedUpdate }
    | _ => .error "Expected to parse a CBOR map, received"

/-! ## `Mso` -/

structure Mso where
  version : String
  digestAlgorithm : DigestAlgorithm
  valueDigests : BTreeMap String DigestIds
  deviceKeyInfo : DeviceKeyInfo
  docType : String
  validityInfo : ValidityInfo

instance : Serialize Mso where
  toValue m := structValue
    [("version", some (toValue m.version)),
     ("digestAlgorithm", some (toValue m.digestAlgorithm)),
     ("valueDigests", some (toValue m.valueDigests)),
     ("deviceKeyInfo", some (toValue m.deviceKeyInfo)),
     ("docType", some (toValue m.docType)),
     ("validityInfo", some (toValue m.validityInfo))]

instance : Deserialize Mso where
  ofValue v := do
    let fields ← Fields.ofValue "Mso" v
    let version ← fields.required "version" String
    let digestAlgorithm ← fields.required "digestAlgorithm" DigestAlgorithm
    let valueDigests ← fields.required "valueDigests" (BTreeMap String DigestIds)
    let deviceKeyInfo ← fields.required "deviceKeyInfo" DeviceKeyInfo
    let docType ← fields.required "docType" String
    let validityInfo ← fields.required "validityInfo" ValidityInfo
    .ok { version, digestAlgorithm, valueDigests, deviceKeyInfo, docType, validityInfo }

end

end Isomdl
