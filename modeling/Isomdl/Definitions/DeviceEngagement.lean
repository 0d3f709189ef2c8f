import Isomdl.Crypto
import Isomdl.Definitions.DeviceKey

/-!
# Device engagement (`definitions/device_engagement.rs`, `device_engagement/nfc_options.rs`)

What a device shows in its QR code: its ephemeral key, and the ways to reach it.  The codecs are
written by hand in the source, over maps with integer keys.

* `DeviceRetrievalMethod.tryFrom_toCbor`   a retrieval method reads back from its item;
* `DeviceEngagement.tryFrom_toCbor`        so does an engagement of version 1.0;
* `DeviceEngagement.fromSlice_intoWriter`  and from its bytes;
* `DeviceEngagement.fromQrCodeUri_toQrCodeUri`   and from its QR code.
-/

namespace Isomdl

open Cbor

namespace DeviceEngagement

/-- `device_engagement::Error`, the variants that are returned -/
inductive Error where
  | unsupportedVersion
  | unsupportedDRM
  | invalidDeviceEngagement
  | invalidWifiOptions
  | invalidNfcOptions
  | malformed
  | cborError
  | invalidNfcCommandDataLengthError
  | invalidNfcResponseDataLengthError
  deriving DecidableEq, Repr

def Error.display : Error → String
  | .unsupportedVersion => "Expected isomdl major version 1"
  | .unsupportedDRM => "Unsupported device retrieval method"
  | .invalidDeviceEngagement => "Invalid DeviceEngagment found"
  | .invalidWifiOptions => "Invalid WifiOptions found"
  | .invalidNfcOptions => "Invalid NfcOptions found"
  | .malformed => "Malformed object not recognised"
  | .cborError => "Could not deserialize from cbor"
  | .invalidNfcCommandDataLengthError =>
    "NFC Command Data Length must be between 255 and 65535"
  | .invalidNfcResponseDataLengthError =>
    "NFC Response Data Length must be between 256 and 65536"

end DeviceEngagement

open DeviceEngagement (Error)

/-- a map with integer keys as a `BTreeMap`: the last entry counts when a key repeats -/
def integerMap (entries : List (Value × Value)) : Except Error (BTreeMap Int Value) :=
  (fun entries => Std.ExtTreeMap.ofList entries compare) <$> integerKeys .cborError entries

/-- the map with the entries that are there, in their order -/
def integerMapValue (l : List (Integer × Option Value)) : Value :=
  .map ((BTreeMap.present l).map fun e => (.integer e.1, e.2))

/-- an integer key -/
abbrev key (i : Int) (h : -(2 ^ 64) ≤ i ∧ i < 2 ^ 64 := by decide) : Integer := ⟨i, h⟩

theorem integerKeys_integer {E : Type} (e : E) (l : List (Integer × Value)) :
    integerKeys e (l.map fun p => (.integer p.1, p.2)) = .ok (l.map fun p => (p.1.1, p.2)) := by
  induction l with
  | nil => rfl
  | cons p l ih =>
    rw [List.map_cons]
    show (integerKeys e (l.map fun p => (.integer p.1, p.2)) >>= fun rest =>
      .ok ((p.1.1, p.2) :: rest)) = _
    rw [ih]
    rfl

/-- **A map with distinct integer keys reads back as its lookups.** -/
theorem integerMap_present {l : List (Integer × Option Value)} (hl : (l.map (·.1.1)).Nodup) :
    ∃ map : BTreeMap Int Value,
      integerMap ((BTreeMap.present l).map fun e => (.integer e.1, e.2)) = .ok map ∧
        (∀ k o, (k, o) ∈ l → map[k.1]? = o) ∧ ∀ k, k ∉ l.map (·.1.1) → map[k]? = none := by
  have hkeys : (l.map (·.1.1)) = (l.map fun e => (e.1.1, e.2)).map Prod.fst := by
    rw [List.map_map]
    rfl
  refine ⟨Std.ExtTreeMap.ofList (BTreeMap.present (l.map fun e => (e.1.1, e.2))) compare,
    ?_, ?_, ?_⟩
  · rw [integerMap, integerKeys_integer, ← BTreeMap.present_map]
    rfl
  · intro k o h
    exact BTreeMap.getElem?_ofList_present (hkeys ▸ hl) (List.mem_map.mpr ⟨(k, o), h, rfl⟩)
  · intro k h
    exact BTreeMap.getElem?_ofList_present_eq_none (hkeys ▸ h)

theorem plain_integerMapValue {n : ℕ} {l : List (Integer × Option Value)}
    (h : ∀ e ∈ l, ∀ v, e.2 = some v → v.Plain n) : (integerMapValue l).Plain (n + 1) := by
  rw [integerMapValue, Value.plain_map]
  intro e he
  obtain ⟨⟨k, v⟩, hmem, rfl⟩ := List.mem_map.mp he
  exact ⟨Value.plain_integer n k, h _ (BTreeMap.mem_present.mp hmem) v rfl⟩

/-! ## NFC -/

/-- `CommandDataLength(u16)`: its constructors check the lower bound -/
abbrev CommandDataLength := {n : Nat // 255 ≤ n ∧ n < 2 ^ 16}

/-- `ResponseDataLength(u32)`: its constructors check the lower bound -/
abbrev ResponseDataLength := {n : Nat // 256 ≤ n ∧ n < 2 ^ 32}

structure NfcOptions where
  maxLenCommandDataField : CommandDataLength
  maxLenResponseDataField : ResponseDataLength
  deriving DecidableEq

theorem toNat_bounds {lo bound : Nat} {i : Int} (hi : 0 ≤ i ∧ i < bound) (hlo : lo ≤ i.toNat) :
    lo ≤ i.toNat ∧ i.toNat < bound := by
  omega

/-- an integer of an unsigned type with values below `bound`, and not below `lo` -/
def lengthOfValue (lo bound : Nat) (e : Error) (v : Value) :
    Except Error {n : Nat // lo ≤ n ∧ n < bound} :=
  match v.int? with
  | none => .error .cborError
  | some i =>
    if hi : 0 ≤ i ∧ i < bound then
      if hlo : lo ≤ i.toNat then .ok ⟨i.toNat, toNat_bounds hi hlo⟩ else .error e
    else .error .cborError

def CommandDataLength.ofValue : Value → Except Error CommandDataLength :=
  lengthOfValue 255 (2 ^ 16) .invalidNfcCommandDataLengthError

def ResponseDataLength.ofValue : Value → Except Error ResponseDataLength :=
  lengthOfValue 256 (2 ^ 32) .invalidNfcResponseDataLengthError

/-- `map.remove(&k).ok_or(e).and_then(f)` -/
def requiredEntry {α : Type} (e : Error) (f : Value → Except Error α) : Option Value → Except Error α
  | none => .error e
  | some v => f v

def NfcOptions.tryFrom : Value → Except Error NfcOptions
  | .map entries => do
    let map ← integerMap entries
    let maxLenCommandDataField ←
      requiredEntry .invalidNfcOptions CommandDataLength.ofValue map[(0 : Int)]?
    let maxLenResponseDataField ←
      requiredEntry .invalidNfcOptions ResponseDataLength.ofValue map[(1 : Int)]?
    .ok { maxLenCommandDataField, maxLenResponseDataField }
  | _ => .error .invalidNfcOptions

/-- an unsigned number as an item -/
def lengthValue {lo bound : Nat} (hb : bound ≤ 2 ^ 64) (n : {n : Nat // lo ≤ n ∧ n < bound}) :
    Value :=
  .integer ⟨n.1, by omega⟩

def NfcOptions.toCbor (o : NfcOptions) : Value :=
  integerMapValue
    [(key 0, some (lengthValue (by decide) o.maxLenCommandDataField)),
     (key 1, some (lengthValue (by decide) o.maxLenResponseDataField))]

/-! ## BLE -/

abbrev Uuid := {b : Bytes // b.length = 16}

structure PeripheralServerMode where
  uuid : Uuid
  bleDeviceAddress : Option ByteStr
  deriving DecidableEq

structure CentralClientMode where
  uuid : Uuid
  deriving DecidableEq

structure BleOptions where
  peripheralServerMode : Option PeripheralServerMode
  centralClientMode : Option CentralClientMode
  deriving DecidableEq

/-- the sixteen bytes of a UUID -/
def uuidOfBytes (b : Bytes) : Except Error Uuid :=
  if h : b.length = 16 then .ok ⟨b, h⟩ else .error .malformed

def byteStrOfValue (e : Error) : Value → Except Error ByteStr
  | .bytes b => .ok ⟨b⟩
  | _ => .error e

/-- the match on the entries 1 and 11 -/
def centralClientModeOf : Option Value → Option Value → Except Error (Option CentralClientMode)
  | some (.bool true), some (.bytes uuid) => (fun uuid => some ⟨uuid⟩) <$> uuidOfBytes uuid
  | some (.bool false), _ => .ok none
  | _, _ => .error .malformed

/-- the match on the entries 0 and 10, with the address in entry 20 -/
def peripheralServerModeOf (address : Option Value) :
    Option Value → Option Value → Except Error (Option PeripheralServerMode)
  | some (.bool true), some (.bytes uuid) => do
    let uuid ← uuidOfBytes uuid
    match address with
    | none => .ok (some ⟨uuid, none⟩)
    | some v => (fun address => some ⟨uuid, some address⟩) <$> byteStrOfValue .malformed v
  | some (.bool false), _ => .ok none
  | _, _ => .error .malformed

def BleOptions.tryFrom : Value → Except Error BleOptions
  | .map entries => do
    let map ← integerMap entries
    let centralClientMode ← centralClientModeOf map[(1 : Int)]? map[(11 : Int)]?
    let peripheralServerMode ←
      peripheralServerModeOf map[(20 : Int)]? map[(0 : Int)]? map[(10 : Int)]?
    .ok { peripheralServerMode, centralClientMode }
  | _ => .error .malformed

def BleOptions.toCbor (o : BleOptions) : Value :=
  integerMapValue
    [(key 1, some (.bool o.centralClientMode.isSome)),
     (key 11, o.centralClientMode.map fun mode => .bytes mode.uuid),
     (key 0, some (.bool o.peripheralServerMode.isSome)),
     (key 10, o.peripheralServerMode.map fun mode => .bytes mode.uuid),
     (key 20, (o.peripheralServerMode.bind (·.bleDeviceAddress)).map fun b => .bytes b.bytes)]

/-! ## Wi-Fi -/

structure WifiOptions where
  passPhrase : Option String
  channelInfoOperatingClass : Option UInt64
  channelInfoChannelNumber : Option UInt64
  bandInfo : Option ByteStr
  deriving DecidableEq

def lookupOptString (map : BTreeMap Int Value) (idx : Int) : Except Error (Option String) :=
  match map[idx]? with
  | none => .ok none
  | some (.text text) => .ok (some text)
  | _ => .error .invalidWifiOptions

def lookupOptU64 (map : BTreeMap Int Value) (idx : Int) : Except Error (Option UInt64) :=
  match map[idx]? with
  | none => .ok none
  | some (.integer i) =>
    if 0 ≤ i.1 then .ok (some (UInt64.ofNat i.1.toNat)) else .error .invalidWifiOptions
  | _ => .error .invalidWifiOptions

def lookupOptByteStr (map : BTreeMap Int Value) (idx : Int) : Except Error (Option ByteStr) :=
  match map[idx]? with
  | none => .ok none
  | some v => some <$> byteStrOfValue .invalidWifiOptions v

def WifiOptions.tryFrom : Value → Except Error WifiOptions
  | .map entries => do
    let map ← integerMap entries
    let passPhrase ← lookupOptString map 0
    let channelInfoOperatingClass ← lookupOptU64 map 1
    let channelInfoChannelNumber ← lookupOptU64 map 2
    let bandInfo ← lookupOptByteStr map 3
    .ok { passPhrase, channelInfoOperatingClass, channelInfoChannelNumber, bandInfo }
  | _ => .error .invalidWifiOptions

def WifiOptions.toCbor (o : WifiOptions) : Value :=
  integerMapValue
    [(key 0, o.passPhrase.map .text), (key 1, o.channelInfoOperatingClass.map .ofUInt64),
     (key 2, o.channelInfoChannelNumber.map .ofUInt64),
     (key 3, o.bandInfo.map fun b => .bytes b.bytes)]

/-! ## options read back -/

theorem lengthOfValue_val {lo bound : Nat} (hb : bound ≤ 2 ^ 64) (e : Error)
    (n : {n : Nat // lo ≤ n ∧ n < bound}) :
    lengthOfValue lo bound e (lengthValue hb n) = .ok n := by
  obtain ⟨n, hlo, hn⟩ := n
  have hi : 0 ≤ (n : Int) ∧ (n : Int) < bound := ⟨by omega, by omega⟩
  show (if hi : 0 ≤ (n : Int) ∧ (n : Int) < bound then _ else _) = _
  rw [dif_pos hi]
  exact dif_pos hlo

theorem NfcOptions.tryFrom_toCbor (o : NfcOptions) : tryFrom o.toCbor = .ok o := by
  obtain ⟨map, hmap, hget, -⟩ := integerMap_present
    (l := [(key 0, some (lengthValue (by decide) o.maxLenCommandDataField)),
      (key 1, some (lengthValue (by decide) o.maxLenResponseDataField))])
    (by simp)
  have h0 : map[(0 : Int)]? = some (lengthValue (by decide) o.maxLenCommandDataField) :=
    hget (key 0) _ (by simp)
  have h1 : map[(1 : Int)]? = some (lengthValue (by decide) o.maxLenResponseDataField) :=
    hget (key 1) _ (by simp)
  unfold tryFrom toCbor integerMapValue
  simp only [hmap, h0, h1, requiredEntry, CommandDataLength.ofValue, ResponseDataLength.ofValue,
    lengthOfValue_val, ok_bind]

theorem uuidOfBytes_val (u : Uuid) : uuidOfBytes u = .ok u := dif_pos u.2

theorem centralClientModeOf_val (mode : Option CentralClientMode) :
    centralClientModeOf (some (.bool mode.isSome)) (mode.map fun mode => .bytes mode.uuid) =
      .ok mode := by
  cases mode with
  | none => rfl
  | some mode =>
    show (fun uuid => some (CentralClientMode.mk uuid)) <$> uuidOfBytes mode.uuid = _
    rw [uuidOfBytes_val]
    rfl

theorem peripheralServerModeOf_val (mode : Option PeripheralServerMode) :
    peripheralServerModeOf ((mode.bind (·.bleDeviceAddress)).map fun b => .bytes b.bytes)
      (some (.bool mode.isSome)) (mode.map fun mode => .bytes mode.uuid) = .ok mode := by
  cases mode with
  | none => rfl
  | some mode =>
    obtain ⟨uuid, address⟩ := mode
    show (uuidOfBytes uuid >>= _) = _
    rw [uuidOfBytes_val]
    cases address <;> rfl

theorem BleOptions.tryFrom_toCbor (o : BleOptions) : tryFrom o.toCbor = .ok o := by
  obtain ⟨map, hmap, hget, -⟩ := integerMap_present
    (l := [(key 1, some (.bool o.centralClientMode.isSome)),
      (key 11, o.centralClientMode.map fun mode => .bytes mode.uuid),
      (key 0, some (.bool o.peripheralServerMode.isSome)),
      (key 10, o.peripheralServerMode.map fun mode => .bytes mode.uuid),
      (key 20, (o.peripheralServerMode.bind (·.bleDeviceAddress)).map fun b => .bytes b.bytes)])
    (by simp)
  have h1 : map[(1 : Int)]? = some (.bool o.centralClientMode.isSome) :=
    hget (key 1) _ (by simp)
  have h11 : map[(11 : Int)]? = o.centralClientMode.map fun mode => .bytes mode.uuid :=
    hget (key 11) _ (by simp)
  have h0 : map[(0 : Int)]? = some (.bool o.peripheralServerMode.isSome) :=
    hget (key 0) _ (by simp)
  have h10 : map[(10 : Int)]? = o.peripheralServerMode.map fun mode => .bytes mode.uuid :=
    hget (key 10) _ (by simp)
  have h20 : map[(20 : Int)]? =
      (o.peripheralServerMode.bind (·.bleDeviceAddress)).map fun b => .bytes b.bytes :=
    hget (key 20) _ (by simp)
  unfold tryFrom toCbor integerMapValue
  simp only [hmap, h0, h1, h10, h11, h20, centralClientModeOf_val, peripheralServerModeOf_val,
    ok_bind]

theorem lookupOptString_val {map : BTreeMap Int Value} {idx : Int} {o : Option String}
    (h : map[idx]? = o.map .text) : lookupOptString map idx = .ok o := by
  rw [lookupOptString, h]
  cases o <;> rfl

theorem lookupOptU64_val {map : BTreeMap Int Value} {idx : Int} {o : Option UInt64}
    (h : map[idx]? = o.map .ofUInt64) : lookupOptU64 map idx = .ok o := by
  rw [lookupOptU64, h]
  cases o with
  | none => rfl
  | some n =>
    show (if 0 ≤ (n.toNat : Int) then
      Except.ok (some (UInt64.ofNat (n.toNat : Int).toNat)) else _) = _
    rw [if_pos (by omega), Int.toNat_natCast, UInt64.ofNat_toNat]

theorem lookupOptByteStr_val {map : BTreeMap Int Value} {idx : Int} {o : Option ByteStr}
    (h : map[idx]? = o.map fun b => .bytes b.bytes) : lookupOptByteStr map idx = .ok o := by
  rw [lookupOptByteStr, h]
  cases o <;> rfl

theorem WifiOptions.tryFrom_toCbor (o : WifiOptions) : tryFrom o.toCbor = .ok o := by
  obtain ⟨map, hmap, hget, -⟩ := integerMap_present
    (l := [(key 0, o.passPhrase.map .text), (key 1, o.channelInfoOperatingClass.map .ofUInt64),
      (key 2, o.channelInfoChannelNumber.map .ofUInt64),
      (key 3, o.bandInfo.map fun b => .bytes b.bytes)])
    (by simp)
  have h0 := lookupOptString_val (hget (key 0) (o.passPhrase.map .text) (by simp))
  have h1 :=
    lookupOptU64_val (hget (key 1) (o.channelInfoOperatingClass.map .ofUInt64) (by simp))
  have h2 :=
    lookupOptU64_val (hget (key 2) (o.channelInfoChannelNumber.map .ofUInt64) (by simp))
  have h3 :=
    lookupOptByteStr_val (hget (key 3) (o.bandInfo.map fun b => .bytes b.bytes) (by simp))
  unfold tryFrom toCbor integerMapValue
  simp only [hmap, h0, h1, h2, h3, ok_bind]

/-! ## retrieval methods -/

inductive DeviceRetrievalMethod where
  | WIFI (options : WifiOptions)
  | BLE (options : BleOptions)
  | NFC (options : NfcOptions)
  deriving DecidableEq

namespace DeviceRetrievalMethod

def version : DeviceRetrievalMethod → UInt64 := fun _ => 1

def transportType : DeviceRetrievalMethod → UInt64
  | .NFC _ => 1
  | .BLE _ => 2
  | .WIFI _ => 3

/-- `Error::Malformed` in place of any error -/
def malformed {α : Type} (x : Except Error α) : Except Error α := x.mapError fun _ => .malformed

def tryFrom : Value → Except Error DeviceRetrievalMethod
  | .array [.integer transport, v, methods] =>
    match v with
    | .integer version =>
      if version.1 = 1 ∧ transport.1 = 1 then .NFC <$> NfcOptions.tryFrom methods
      else if version.1 = 1 ∧ transport.1 = 2 then .BLE <$> malformed (BleOptions.tryFrom methods)
      else if version.1 = 1 ∧ transport.1 = 3 then .WIFI <$> malformed (WifiOptions.tryFrom methods)
      else .error .unsupportedDRM
    | _ => .error .unsupportedDRM
  | _ => .error .malformed

def toCbor (m : DeviceRetrievalMethod) : Value :=
  .array [.ofUInt64 m.transportType, .ofUInt64 m.version,
    match m with
    | .NFC options => options.toCbor
    | .BLE options => options.toCbor
    | .WIFI options => options.toCbor]

theorem tryFrom_toCbor (m : DeviceRetrievalMethod) : tryFrom m.toCbor = .ok m := by
  cases m with
  | WIFI options =>
    show DeviceRetrievalMethod.WIFI <$> malformed (WifiOptions.tryFrom options.toCbor) = _
    rw [options.tryFrom_toCbor]
    rfl
  | BLE options =>
    show DeviceRetrievalMethod.BLE <$> malformed (BleOptions.tryFrom options.toCbor) = _
    rw [options.tryFrom_toCbor]
    rfl
  | NFC options =>
    show DeviceRetrievalMethod.NFC <$> NfcOptions.tryFrom options.toCbor = _
    rw [options.tryFrom_toCbor]
    rfl

instance : Serialize DeviceRetrievalMethod := ⟨fun m => .ok m.toCbor⟩

instance : Deserialize DeviceRetrievalMethod := ⟨fun v => (tryFrom v).mapError Error.display⟩

theorem ofValue_toCbor (m : DeviceRetrievalMethod) :
    (ofValue m.toCbor : Except String DeviceRetrievalMethod) = .ok m := by
  show (tryFrom m.toCbor).mapError Error.display = _
  rw [m.tryFrom_toCbor]
  rfl

end DeviceRetrievalMethod

/-- `WebApi` and `Oidc` -/
abbrev ServerRetrieval := UInt64 × String × String

/-- a tuple of three, further elements ignored -/
def serverRetrievalOfValue (v : Value) : Except String ServerRetrieval :=
  match v.untagged with
  | .array (x :: y :: z :: _) => do
    let x ← (ofValue x : Except String UInt64)
    let y ← (ofValue y : Except String String)
    let z ← (ofValue z : Except String String)
    .ok (x, y, z)
  | _ => .error "invalid type: expected a tuple of size 3"

instance : Deserialize ServerRetrieval := ⟨serverRetrievalOfValue⟩

structure ServerRetrievalMethods where
  webApi : Option ServerRetrieval
  oidc : Option ServerRetrieval
  deriving DecidableEq

def ServerRetrieval.toCbor (m : ServerRetrieval) : Value :=
  .array [.ofUInt64 m.1, .text m.2.1, .text m.2.2]

def ServerRetrievalMethods.toCbor (m : ServerRetrievalMethods) : Value :=
  .map ((BTreeMap.present
    [("webApi", m.webApi.map ServerRetrieval.toCbor), ("oidc", m.oidc.map ServerRetrieval.toCbor)]
    ).map fun e => (.text e.1, e.2))

instance : Deserialize ServerRetrievalMethods where
  ofValue v := do
    let fields ← Fields.ofValue "ServerRetrievalMethods" v
    let webApi ← fields.optional "webApi" ServerRetrieval
    let oidc ← fields.optional "oidc" ServerRetrieval
    .ok { webApi, oidc }

theorem ofValue_ofUInt64 (n : UInt64) :
    (ofValue (Value.ofUInt64 n) : Except String UInt64) = .ok n := by
  have hn := n.toNat_lt
  show (fun i : Int => UInt64.ofNat i.toNat) <$>
    (if 0 ≤ (n.toNat : Int) ∧ (n.toNat : Int) ≤ 2 ^ 64 - 1 then _ else _) = _
  rw [if_pos ⟨by omega, by omega⟩]
  show Except.ok (UInt64.ofNat (n.toNat : Int).toNat) = _
  rw [Int.toNat_natCast, UInt64.ofNat_toNat]

theorem ServerRetrieval.ofValue_toCbor (r : ServerRetrieval) :
    (ofValue (ServerRetrieval.toCbor r) : Except String ServerRetrieval) = .ok r := by
  show ((ofValue (Value.ofUInt64 r.1) : Except String UInt64) >>= _) = _
  rw [ofValue_ofUInt64]
  rfl

theorem ServerRetrievalMethods.ofValue_toCbor (m : ServerRetrievalMethods) :
    (ofValue m.toCbor : Except String ServerRetrievalMethods) = .ok m := by
  have hread (o : Option ServerRetrieval) : (o.map ServerRetrieval.toCbor = none ∧ o = none) ∨
      ∃ v b, o.map ServerRetrieval.toCbor = some v ∧ v ≠ .null ∧ o = some b ∧ ofValue v = .ok b := by
    cases o with
    | none => exact .inl ⟨rfl, rfl⟩
    | some r =>
      exact .inr ⟨_, r, rfl, Value.noConfusion, rfl, ServerRetrieval.ofValue_toCbor r⟩
  have hweb := Fields.optional_present (α := ServerRetrieval)
    (l := [("webApi", m.webApi.map ServerRetrieval.toCbor),
      ("oidc", m.oidc.map ServerRetrieval.toCbor)])
    (by simp) List.mem_cons_self (hread m.webApi)
  have hoidc := Fields.optional_present (α := ServerRetrieval)
    (l := [("webApi", m.webApi.map ServerRetrieval.toCbor),
      ("oidc", m.oidc.map ServerRetrieval.toCbor)])
    (by simp) (List.mem_cons_of_mem _ List.mem_cons_self) (hread m.oidc)
  show (Fields.ofValue _ m.toCbor >>= _) = _
  rw [toCbor, Fields.ofValue_present, ok_bind, hweb, ok_bind, hoidc, ok_bind]

/-! ## the engagement -/

/-- `Security(u64, EDeviceKeyBytes)` -/
structure Security where
  cipherSuite : UInt64
  eDeviceKeyBytes : Tag24 CoseKey
  deriving DecidableEq

structure DeviceEngagement where
  version : String
  security : Security
  deviceRetrievalMethods : Option (NonEmptyVec DeviceRetrievalMethod)
  serverRetrievalMethods : Option ServerRetrievalMethods
  protocolInfo : Option Value

section
variable [Ciborium]

/-- a tuple struct, further elements ignored -/
instance : Deserialize Security where
  ofValue v :=
    match v.untagged with
    | .array (x :: y :: _) => do
      let x ← ofValue x
      let y ← ofValue y
      .ok ⟨x, y⟩
    | _ => .error "invalid type: expected tuple struct Security"

namespace DeviceEngagement

/-- `cbor::from_value`, with `Error::Malformed` for every failure -/
def fromValueOrMalformed (α : Type) [Deserialize α] (v : Value) : Except Error α :=
  (fromValue α v).mapError fun _ => .malformed

/-- an entry that may be absent -/
def optionalEntry (α : Type) [Deserialize α] (v : Option Value) : Except Error (Option α) :=
  match v with
  | none => .ok none
  | some v => some <$> fromValueOrMalformed α v

def tryFrom : Value → Except Error DeviceEngagement
  | .map entries => do
    let map ← integerMap entries
    match map[(0 : Int)]? with
    | some (.text v) =>
      if v ≠ "1.0" then .error .unsupportedVersion
      else
        match map[(1 : Int)]? with
        | none => .error .malformed
        | some v => do
          let security ← fromValueOrMalformed Security v
          let deviceRetrievalMethods ←
            optionalEntry (NonEmptyVec DeviceRetrievalMethod) map[(2 : Int)]?
          let serverRetrievalMethods ← optionalEntry ServerRetrievalMethods map[(3 : Int)]?
          let protocolInfo := map[(4 : Int)]?
          .ok { version := "1.0", security, deviceRetrievalMethods, serverRetrievalMethods,
                protocolInfo }
    | _ => .error .malformed
  | _ => .error .invalidDeviceEngagement

/-- `protocol_info` is not written -/
def toCbor (e : DeviceEngagement) : Value :=
  integerMapValue
    [(key 0, some (.text e.version)),
     (key 1, some (.array [.ofUInt64 e.security.cipherSuite, e.security.eDeviceKeyBytes.toCbor])),
     (key 2, e.deviceRetrievalMethods.map fun methods =>
       .array (methods.toList.map DeviceRetrievalMethod.toCbor)),
     (key 3, e.serverRetrievalMethods.map ServerRetrievalMethods.toCbor)]

/-- the engagement with this embedded key -/
def withKey (e : DeviceEngagement) (eDeviceKeyBytes : Tag24 CoseKey) : DeviceEngagement :=
  { e with security := ⟨e.security.cipherSuite, eDeviceKeyBytes⟩ }

/-- **What is read of an engagement of version 1.0** is the engagement with the key that is read. -/
theorem tryFrom_toCbor_eq {e : DeviceEngagement} (hv : e.version = "1.0")
    (hp : e.protocolInfo = none) :
    tryFrom e.toCbor =
      ((ofValue e.security.eDeviceKeyBytes.toCbor : Except String (Tag24 CoseKey)).mapError
        fun _ => Error.malformed).map e.withKey := by
  obtain ⟨version, security, methods, server, protocolInfo⟩ := e
  cases hv
  cases hp
  obtain ⟨map, hmap, hget, hnone⟩ := integerMap_present
    (l := [(key 0, some (.text "1.0")),
      (key 1, some (.array [.ofUInt64 security.cipherSuite, security.eDeviceKeyBytes.toCbor])),
      (key 2, methods.map fun methods =>
        .array (methods.toList.map DeviceRetrievalMethod.toCbor)),
      (key 3, server.map ServerRetrievalMethods.toCbor)])
    (by simp)
  have h0 : map[(0 : Int)]? = some (.text "1.0") := hget (key 0) _ (by simp)
  have h1 : map[(1 : Int)]? = some
      (.array [.ofUInt64 security.cipherSuite, security.eDeviceKeyBytes.toCbor]) :=
    hget (key 1) _ (by simp)
  have h2 : map[(2 : Int)]? = methods.map fun methods =>
      .array (methods.toList.map DeviceRetrievalMethod.toCbor) := hget (key 2) _ (by simp)
  have h3 : map[(3 : Int)]? = server.map ServerRetrievalMethods.toCbor :=
    hget (key 3) _ (by simp)
  have h4 : map[(4 : Int)]? = none := hnone 4 (by simp)
  have hsecurity : fromValueOrMalformed Security
      (.array [.ofUInt64 security.cipherSuite, security.eDeviceKeyBytes.toCbor]) =
        ((ofValue security.eDeviceKeyBytes.toCbor : Except String (Tag24 CoseKey)).mapError
          fun _ => Error.malformed).map (Security.mk security.cipherSuite) := by
    have hread : (ofValue (.array [.ofUInt64 security.cipherSuite,
        security.eDeviceKeyBytes.toCbor]) : Except String Security) =
          (ofValue security.eDeviceKeyBytes.toCbor : Except String (Tag24 CoseKey)) >>=
            fun k => .ok (Security.mk security.cipherSuite k) := by
      show (ofValue (Value.ofUInt64 security.cipherSuite) >>= fun x =>
        ofValue security.eDeviceKeyBytes.toCbor >>= fun y => .ok (Security.mk x y)) = _
      rw [ofValue_ofUInt64, ok_bind]
    rw [fromValueOrMalformed, fromValue, hread]
    cases (ofValue security.eDeviceKeyBytes.toCbor : Except String (Tag24 CoseKey)) <;> rfl
  have hmethods : optionalEntry (NonEmptyVec DeviceRetrievalMethod) map[(2 : Int)]? =
      .ok methods := by
    rw [h2]
    cases methods with
    | none => rfl
    | some methods =>
      show some <$> fromValueOrMalformed _ (.array (methods.toList.map _)) = _
      rw [fromValueOrMalformed, fromValue,
        methods.ofValue_array fun m _ => m.ofValue_toCbor]
      rfl
  have hserver : optionalEntry ServerRetrievalMethods map[(3 : Int)]? =
      .ok server := by
    rw [h3]
    cases server with
    | none => rfl
    | some methods =>
      show some <$> fromValueOrMalformed _ methods.toCbor = _
      rw [fromValueOrMalformed, fromValue, methods.ofValue_toCbor]
      rfl
  unfold tryFrom toCbor integerMapValue
  simp only [hmap, h0, h1, ne_eq, not_true_eq_false, if_false, ok_bind, hsecurity, hmethods,
    hserver, h4]
  cases (ofValue security.eDeviceKeyBytes.toCbor : Except String (Tag24 CoseKey)) <;> rfl

/-- **An engagement of version 1.0 reads back.** -/
theorem tryFrom_toCbor {e : DeviceEngagement} (hv : e.version = "1.0") (hp : e.protocolInfo = none)
    (hk : (ofValue e.security.eDeviceKeyBytes.toCbor : Except String (Tag24 CoseKey)) =
      .ok e.security.eDeviceKeyBytes) :
    tryFrom e.toCbor = .ok e := by
  rw [tryFrom_toCbor_eq hv hp, hk]
  rfl

instance : Serialize DeviceEngagement := ⟨fun e => .ok e.toCbor⟩

instance : Deserialize DeviceEngagement := ⟨fun v => (tryFrom v).mapError Error.display⟩

end DeviceEngagement

end

/-! ## engagements are plain -/

theorem NfcOptions.plain (o : NfcOptions) (n : ℕ) : o.toCbor.Plain (n + 1) := by
  apply plain_integerMapValue
  intro e he v hv
  simp only [List.mem_cons, List.not_mem_nil, or_false] at he
  rcases he with rfl | rfl <;> cases hv <;> exact Value.plain_integer n _

theorem BleOptions.plain (o : BleOptions) (n : ℕ) : o.toCbor.Plain (n + 1) := by
  apply plain_integerMapValue
  intro e he v hv
  simp only [List.mem_cons, List.not_mem_nil, or_false] at he
  rcases he with rfl | rfl | rfl | rfl | rfl
  · cases hv
    exact Value.plain_bool n _
  · obtain ⟨mode, -, rfl⟩ := Option.map_eq_some_iff.mp hv
    exact Value.plain_bytes n _
  · cases hv
    exact Value.plain_bool n _
  · obtain ⟨mode, -, rfl⟩ := Option.map_eq_some_iff.mp hv
    exact Value.plain_bytes n _
  · obtain ⟨address, -, rfl⟩ := Option.map_eq_some_iff.mp hv
    exact Value.plain_bytes n _

theorem WifiOptions.plain (o : WifiOptions) (n : ℕ) : o.toCbor.Plain (n + 1) := by
  apply plain_integerMapValue
  intro e he v hv
  simp only [List.mem_cons, List.not_mem_nil, or_false] at he
  rcases he with rfl | rfl | rfl | rfl
  · obtain ⟨text, -, rfl⟩ := Option.map_eq_some_iff.mp hv
    exact Value.plain_text n _
  · obtain ⟨i, -, rfl⟩ := Option.map_eq_some_iff.mp hv
    exact Value.plain_ofUInt64 n _
  · obtain ⟨i, -, rfl⟩ := Option.map_eq_some_iff.mp hv
    exact Value.plain_ofUInt64 n _
  · obtain ⟨b, -, rfl⟩ := Option.map_eq_some_iff.mp hv
    exact Value.plain_bytes n _

theorem DeviceRetrievalMethod.plain (m : DeviceRetrievalMethod) (n : ℕ) :
    m.toCbor.Plain (n + 2) := by
  unfold toCbor
  rw [Value.plain_array]
  intro v hv
  simp only [List.mem_cons, List.not_mem_nil, or_false] at hv
  rcases hv with rfl | rfl | rfl
  · exact Value.plain_ofUInt64 _ _
  · exact Value.plain_ofUInt64 _ _
  · cases m with
    | WIFI options => exact options.plain n
    | BLE options => exact options.plain n
    | NFC options => exact options.plain n

theorem ServerRetrievalMethods.plain (m : ServerRetrievalMethods) (n : ℕ) :
    m.toCbor.Plain (n + 2) := by
  have hmethod (r : ServerRetrieval) : (ServerRetrieval.toCbor r).Plain (n + 1) := by
    rw [ServerRetrieval.toCbor]
    simp
  apply plain_present
  intro e he v hv
  simp only [List.mem_cons, List.not_mem_nil, or_false] at he
  rcases he with rfl | rfl
  · obtain ⟨r, -, rfl⟩ := Option.map_eq_some_iff.mp hv
    exact hmethod r
  · obtain ⟨r, -, rfl⟩ := Option.map_eq_some_iff.mp hv
    exact hmethod r

namespace DeviceEngagement

theorem plain (e : DeviceEngagement) (n : ℕ) : e.toCbor.Plain (n + 4) := by
  apply plain_integerMapValue
  intro entry he v hv
  simp only [List.mem_cons, List.not_mem_nil, or_false] at he
  rcases he with rfl | rfl | rfl | rfl
  · cases hv
    exact Value.plain_text _ _
  · cases hv
    simp [Tag24.toCbor]
  · obtain ⟨methods, -, rfl⟩ := Option.map_eq_some_iff.mp hv
    rw [Value.plain_array]
    intro v hv
    obtain ⟨m, -, rfl⟩ := List.mem_map.mp hv
    exact m.plain n
  · obtain ⟨methods, -, rfl⟩ := Option.map_eq_some_iff.mp hv
    exact methods.plain (n + 1)

/-- **An engagement of version 1.0 reads back from its bytes.** -/
theorem fromSlice_intoWriter [LawfulCiborium] {e : DeviceEngagement} (hv : e.version = "1.0")
    (hp : e.protocolInfo = none)
    (hk : (ofValue e.security.eDeviceKeyBytes.toCbor : Except String (Tag24 CoseKey)) =
      .ok e.security.eDeviceKeyBytes) :
    fromSlice DeviceEngagement (Ciborium.intoWriter e.toCbor) = .ok e := by
  refine LawfulCiborium.fromSlice_intoWriter (e.plain 12) ?_
  show (tryFrom e.toCbor).mapError Error.display = _
  rw [tryFrom_toCbor hv hp hk]
  rfl

end DeviceEngagement

/-! ## the QR code -/

namespace DeviceEngagement

/-- `Tag24::<DeviceEngagement>::to_qr_code_uri`, which does not fail -/
def toQrCodeUri [Base64] (t : Tag24 DeviceEngagement) : String :=
  "mdoc:" ++ Base64.encode t.innerBytes

/-- `Tag24::<DeviceEngagement>::from_qr_code_uri` -/
def fromQrCodeUri [Ciborium] [Base64] (qrCodeUri : String) :
    Except String (Tag24 DeviceEngagement) :=
  match stripPrefix "mdoc:" qrCodeUri with
  | none => .error "qr code has invalid prefix"
  | some encodedDe => do
    let decodedDe ← Base64.decode encodedDe
    (Tag24.fromBytes decodedDe).mapError Tag24.Error.display

/-- **The engagement in a QR code reads back, with its bytes.** -/
theorem fromQrCodeUri_toQrCodeUri [Ciborium] [LawfulBase64] {t : Tag24 DeviceEngagement}
    (h : fromSlice DeviceEngagement t.innerBytes = .ok t.inner) :
    fromQrCodeUri (toQrCodeUri t) = .ok t := by
  rw [fromQrCodeUri, toQrCodeUri, stripPrefix_append]
  show ((Base64.decode (Base64.encode t.innerBytes)) >>= fun decodedDe =>
    (Tag24.fromBytes decodedDe).mapError Tag24.Error.display) = _
  rw [LawfulBase64.decode_encode, ok_bind, Tag24.fromBytes, h]
  rfl

end DeviceEngagement

end Isomdl
