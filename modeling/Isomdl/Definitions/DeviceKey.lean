import Isomdl.Cose
import Isomdl.Definitions.Helpers

/-!
# Device keys (`definitions/device_key/`)

`CoseKey` is the `COSE_Key` of a device or a reader, with its map form, and `KeyAuthorizations`
says what a device key may sign.

* `CoseKey.ofValue_toCbor`   a key reads back from its map.
-/

namespace Isomdl

open Cbor

/-! ## `device_key/cose_key.rs` -/

/-- the sign bit or the value of the y-coordinate -/
inductive EC2Y where
  | value (y : Bytes)
  | signBit (b : Bool)
  deriving DecidableEq, Repr

inductive EC2Curve where
  | P256
  | P384
  | P521
  | P256K
  deriving DecidableEq, Repr

inductive OKPCurve where
  | X25519
  | X448
  | Ed25519
  | Ed448
  deriving DecidableEq, Repr

inductive CoseKey where
  | EC2 (crv : EC2Curve) (x : Bytes) (y : EC2Y)
  | OKP (crv : OKPCurve) (x : Bytes)
  deriving DecidableEq, Repr

namespace CoseKey

inductive Error where
  | EC2MissingY
  | invalidTypeY (v : Value)
  | notAMap (v : Value)
  | unsupportedCurve
  | unsupportedKeyType
  | invalidCoseKey
  | cborError

/-- the `Display` text; the two cases that print a whole item keep its fixed part -/
def Error.display : Error → String
  | .EC2MissingY => "COSE_Key of kty 'EC2' missing y coordinate"
  | .invalidTypeY _ => "Expected to parse a CBOR bool or bstr for y-coordinate, received"
  | .notAMap _ => "Expected to parse a CBOR map, received"
  | .unsupportedCurve =>
    "This implementation of COSE_Key only supports P-256, P-384, P-521, Ed25519 and Ed448 elliptic curves"
  | .unsupportedKeyType => "This implementation of COSE_Key only supports EC2 and OKP keys"
  | .invalidCoseKey => "Could not reconstruct coordinates from the provided COSE_Key"
  | .cborError => "could not serialize from to cbor"

end CoseKey

def EC2Y.toCbor : EC2Y → Value
  | .value y => .bytes y
  | .signBit b => .bool b

def EC2Y.tryFrom : Value → Except CoseKey.Error EC2Y
  | .bytes y => .ok (.value y)
  | .bool b => .ok (.signBit b)
  | v => .error (.invalidTypeY v)

def EC2Curve.toCbor : EC2Curve → Value
  | .P256 => .int 1
  | .P384 => .int 2
  | .P521 => .int 3
  | .P256K => .int 8

def EC2Curve.tryFrom : Int → Except CoseKey.Error EC2Curve
  | 1 => .ok .P256
  | 2 => .ok .P384
  | 3 => .ok .P521
  | 8 => .ok .P256K
  | _ => .error .unsupportedCurve

def OKPCurve.toCbor : OKPCurve → Value
  | .X25519 => .int 4
  | .X448 => .int 5
  | .Ed25519 => .int 6
  | .Ed448 => .int 7

def OKPCurve.tryFrom : Int → Except CoseKey.Error OKPCurve
  | 4 => .ok .X25519
  | 5 => .ok .X448
  | 6 => .ok .Ed25519
  | 7 => .ok .Ed448
  | _ => .error .unsupportedCurve

/-- the keys of a map as integers: `k.into_integer()` -/
def integerKeys {E : Type} (e : E) : List (Value × Value) → Except E (List (Int × Value))
  | [] => .ok []
  | (k, v) :: entries =>
    match k.int? with
    | none => .error e
    | some i => do
      let rest ← integerKeys e entries
      .ok ((i, v) :: rest)

namespace CoseKey

def toCbor : CoseKey → Value
  | .EC2 crv x y =>
    .map [(.int 1, .int 2), (.int (-1), crv.toCbor), (.int (-2), .bytes x), (.int (-3), y.toCbor)]
  | .OKP crv x => .map [(.int 1, .int 1), (.int (-1), crv.toCbor), (.int (-2), .bytes x)]

/-- `TryFrom<ciborium::Value>`: the last entry counts when a key repeats -/
def tryFrom : Value → Except Error CoseKey
  | .map entries => do
    let entries ← integerKeys .cborError entries
    let map : BTreeMap Int Value := Std.ExtTreeMap.ofList entries compare
    match map[(1 : Int)]?, map[(-1 : Int)]?, map[(-2 : Int)]? with
    | some (.integer kty), some (.integer crvId), some (.bytes x) =>
      if kty.1 = 2 then do
        let crv ← EC2Curve.tryFrom crvId.1
        match map[(-3 : Int)]? with
        | none => .error .EC2MissingY
        | some y => do
          let y ← EC2Y.tryFrom y
          .ok (.EC2 crv x y)
      else if kty.1 = 1 then do
        let crv ← OKPCurve.tryFrom crvId.1
        .ok (.OKP crv x)
      else .error .unsupportedKeyType
    | _, _, _ => .error .unsupportedKeyType
  | v => .error (.notAMap v)

instance : Serialize CoseKey := ⟨fun k => .ok k.toCbor⟩

instance : Deserialize CoseKey := ⟨fun v => (tryFrom v).mapError Error.display⟩

/-- the signature algorithm of a key -/
def signatureAlgorithm : CoseKey → Option Algorithm
  | .EC2 .P256 _ _ => some .ES256
  | .EC2 .P384 _ _ => some .ES384
  | .EC2 .P521 _ _ => some .ES512
  | .OKP .Ed448 _ => some .EdDSA
  | .OKP .Ed25519 _ => some .EdDSA
  | _ => none

/-- **A key reads back from its map.** -/
theorem ofValue_toCbor (k : CoseKey) : (ofValue k.toCbor : Except String CoseKey) = .ok k := by
  have h : tryFrom k.toCbor = .ok k := by
    cases k with
    | EC2 crv x y => cases crv <;> cases y <;> rfl
    | OKP crv x => cases crv <;> rfl
  show (tryFrom k.toCbor).mapError Error.display = _
  rw [h]
  rfl

theorem plain (k : CoseKey) (n : ℕ) : k.toCbor.Plain (n + 1) := by
  cases k with
  | EC2 crv x y => cases crv <;> cases y <;> simp [toCbor, EC2Curve.toCbor, EC2Y.toCbor]
  | OKP crv x => cases crv <;> simp [toCbor, OKPCurve.toCbor]

theorem fromSlice_intoWriter [LawfulCiborium] (k : CoseKey) :
    fromSlice CoseKey (Ciborium.intoWriter k.toCbor) = .ok k :=
  LawfulCiborium.fromSlice_intoWriter (k.plain 15) k.ofValue_toCbor

end CoseKey

/-! ## `device_key/mod.rs` -/

structure KeyAuthorizations where
  namespaces : Option (NonEmptyVec String)
  dataElements : Option (NonEmptyMap String (NonEmptyVec String))

/-- a namespace is not authorized both whole and by element -/
def KeyAuthorizations.validate (a : KeyAuthorizations) : Except String Unit :=
  match a.dataElements, a.namespaces with
  | some authorizedDataElements, some authorizedNamespaces =>
    authorizedNamespaces.toList.forM fun ns =>
      if ns ∈ authorizedDataElements.toMap then
        .error ("namespace '" ++ ns ++
          "' cannot be present in both authorized_namespaces and authorized_data_elements")
      else .ok ()
  | _, _ => .ok ()

structure DeviceKeyInfo where
  deviceKey : CoseKey
  keyAuthorizations : Option KeyAuthorizations
  keyInfo : Option (BTreeMap Int Value)

/-- an `i128` on the wire: an integer where CBOR has one, a bignum outside that range -/
def ofI128 (i : Int) : Value :=
  if h : -(2 ^ 64) ≤ i ∧ i < 2 ^ 64 then .integer ⟨i, h⟩
  else if 0 ≤ i then .tag 2 (.bytes ((beBytes 16 i.toNat).dropWhile (· == 0)))
  else .tag 3 (.bytes ((beBytes 16 (-1 - i).toNat).dropWhile (· == 0)))

instance : Serialize KeyAuthorizations where
  toValue a := structValue
    [("nameSpaces", a.namespaces.map toValue), ("dataElements", a.dataElements.map toValue)]

instance : Serialize DeviceKeyInfo where
  toValue i := structValue
    [("deviceKey", some (toValue i.deviceKey)),
     ("keyAuthorizations", i.keyAuthorizations.map toValue),
     ("keyInfo", i.keyInfo.map fun m => .ok (.map (m.toList.map fun (k, v) => (ofI128 k, v))))]

instance : Deserialize KeyAuthorizations where
  ofValue v := do
    let fields ← Fields.ofValue "KeyAuthorizations" v
    let namespaces ← fields.optional "nameSpaces" (NonEmptyVec String)
    let dataElements ← fields.optional "dataElements" (NonEmptyMap String (NonEmptyVec String))
    .ok { namespaces, dataElements }

/-- an `i128` key -/
instance : Deserialize Int := ⟨boundedInt (-(2 ^ 127)) (2 ^ 127 - 1)⟩

instance : Deserialize DeviceKeyInfo where
  ofValue v := do
    let fields ← Fields.ofValue "DeviceKeyInfo" v
    let deviceKey ← fields.required "deviceKey" CoseKey
    let keyAuthorizations ← fields.optional "keyAuthorizations" KeyAuthorizations
    let keyInfo ← fields.optional "keyInfo" (BTreeMap Int Value)
    .ok { deviceKey, keyAuthorizations, keyInfo }

end Isomdl
