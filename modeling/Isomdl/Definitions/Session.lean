import Isomdl.Crypto
import Isomdl.Definitions.DeviceEngagement
import Isomdl.Definitions.SessionCrypto

/-!
# Sessions (`definitions/session.rs`)

Both parties derive two session keys from their ephemeral keys and the session transcript, and
encrypt their messages under a nonce that is made of the direction and a message counter.

* `initializationVector_inj`   two messages share a nonce only in one direction, at one count;
* `encrypt_cases`              an encryption advances the counter by one or changes nothing;
* `decrypt_cases`              so does a decryption;
* `SessionData.fromSlice_toVec`, `SessionEstablishment.fromSlice_toVec`
                               the two messages read back.
-/

namespace Isomdl

open Cbor

/-! ## messages -/

namespace Session

inductive Status where
  | SessionEncryptionError
  | CborDecodingError
  | SessionTermination
  deriving DecidableEq, Repr

def Status.toUInt64 : Status → UInt64
  | .SessionEncryptionError => 10
  | .CborDecodingError => 11
  | .SessionTermination => 20

def Status.tryFrom (n : UInt64) : Except String Status :=
  if n = 10 then .ok .SessionEncryptionError
  else if n = 11 then .ok .CborDecodingError
  else if n = 20 then .ok .SessionTermination
  else .error ("unrecognised error code: " ++ toString n.toNat)

instance : Serialize Status := ⟨fun s => toValue s.toUInt64⟩

instance : Deserialize Status := ⟨fun v => ofValue v >>= Status.tryFrom⟩

theorem Status.ofValue_toUInt64 (s : Status) :
    (ofValue (Value.ofUInt64 s.toUInt64) : Except String Status) = .ok s := by
  show ((ofValue (Value.ofUInt64 s.toUInt64) : Except String UInt64) >>= Status.tryFrom) = _
  rw [ofValue_ofUInt64]
  cases s <;> rfl

end Session

structure SessionEstablishment where
  eReaderKey : Tag24 CoseKey
  data : ByteStr

structure SessionData where
  data : Option ByteStr
  status : Option Session.Status
  deriving DecidableEq

section
variable [Ciborium]

instance : Serialize SessionEstablishment where
  toValue s := structValue
    [("eReaderKey", some (toValue s.eReaderKey)), ("data", some (toValue s.data))]

instance : Deserialize SessionEstablishment where
  ofValue v := do
    let fields ← Fields.ofValue "SessionEstablishment" v
    let eReaderKey ← fields.required "eReaderKey" (Tag24 CoseKey)
    let data ← fields.required "data" ByteStr
    .ok { eReaderKey, data }

end

instance : Serialize SessionData where
  toValue s := structValue [("data", s.data.map toValue), ("status", s.status.map toValue)]

instance : Deserialize SessionData where
  ofValue v := do
    let fields ← Fields.ofValue "SessionData" v
    let data ← fields.optional "data" ByteStr
    let status ← fields.optional "status" Session.Status
    .ok { data, status }

/-! ## the transcript -/

inductive Handover where
  | QR
  | NFC (select : ByteStr) (request : Option ByteStr)
  | OID4VP (clientId : String) (nonce : String)
  deriving DecidableEq

/-- the untagged representation -/
def Handover.toCbor : Handover → Value
  | .QR => .null
  | .NFC select request =>
    .array [.bytes select.bytes,
      match request with
      | some b => .bytes b.bytes
      | none => .null]
  | .OID4VP clientId nonce => .array [.text clientId, .text nonce]

structure SessionTranscript180135 where
  deviceEngagementBytes : Tag24 DeviceEngagement
  eReaderKeyBytes : Tag24 CoseKey
  handover : Handover

instance : Serialize SessionTranscript180135 :=
  ⟨fun t => .ok (.array [t.deviceEngagementBytes.toCbor, t.eReaderKeyBytes.toCbor,
    t.handover.toCbor])⟩

/-! ## keys -/

section
variable [P256]

/-- `create_p256_ephemeral_keys`, for the secret key that is drawn -/
def createP256EphemeralKeys (privateKey : SecretKey) : SecretKey × CoseKey :=
  let point := P256.publicKey privateKey
  (privateKey, .EC2 .P256 point.x (.value point.y))

/-- `Sec1Point::<NistP256>::try_from(cose_key)` -/
def CoseKey.toSec1Point : CoseKey → Except String Bytes
  | .EC2 .P256 x (.value y) =>
    if x.length ≠ 32 ∨ y.length ≠ 32 then .error CoseKey.Error.invalidCoseKey.display
    else .ok (4 :: (x ++ y))
  | .EC2 .P256 x (.signBit b) =>
    if x.length ≠ 32 then .error CoseKey.Error.invalidCoseKey.display
    else .ok ((if b then 3 else 2) :: x)
  | _ => .error CoseKey.Error.invalidCoseKey.display

/-- `get_shared_secret` -/
def getSharedSecret (coseKey : CoseKey) (privateKey : SecretKey) :
    Except String {b : Bytes // b.length = 32} := do
  let encodedPoint ← coseKey.toSec1Point
  match P256.fromSec1Point encodedPoint with
  | none => .error "reader's public key could not be constructed"
  | some publicKey => .ok (P256.diffieHellman privateKey publicKey)

end

/-- `derive_session_key` -/
def deriveSessionKey [Ciborium] (sharedSecret : {b : Bytes // b.length = 32})
    (sessionTranscript : Tag24 SessionTranscript180135) (reader : Bool) :
    Except String SessionKey := do
  let transcript ← (toVec sessionTranscript).mapError fun e =>
    "failed to serialize session transcript: " ++ e.display
  let salt := secureSha256 [transcript]
  let info := (if reader then "SKReader" else "SKDevice").toUTF8.data.toList
  .ok (hkdfSha256_32 sharedSecret salt info)

/-! ## nonces -/

def identifier (reader : Bool) : Bytes :=
  if reader then [0, 0, 0, 0, 0, 0, 0, 0] else [0, 0, 0, 0, 0, 0, 0, 1]

/-- the nonce of the message with this count -/
def initializationVector (messageCount : UInt32) (reader : Bool) : Nonce :=
  ⟨identifier reader ++ beBytes 4 messageCount.toNat, by
    rw [List.length_append, length_beBytes]
    cases reader <;> rfl⟩

/-- `get_initialization_vector`: the nonce and the advanced counter -/
def getInitializationVector (messageCount : UInt32) (reader : Bool) : Option (Nonce × UInt32) :=
  match messageCount.checkedAdd 1 with
  | none => none
  | some messageCount => some (initializationVector messageCount reader, messageCount)

/-- **Two messages share a nonce only in one direction and at one count.** -/
theorem initializationVector_inj {m n : UInt32} {r s : Bool} :
    initializationVector m r = initializationVector n s ↔ m = n ∧ r = s := by
  constructor
  · intro h
    have hlen : (identifier r).length = (identifier s).length := by cases r <;> cases s <;> rfl
    obtain ⟨hid, hcount⟩ := List.append_inj (congrArg Subtype.val h) hlen
    refine ⟨UInt32.toNat_inj.mp (beBytes_inj m.toNat_lt n.toNat_lt hcount), ?_⟩
    cases r <;> cases s <;> first | rfl | exact absurd hid (by decide)
  · intro ⟨hm, hr⟩
    rw [hm, hr]

/-! ## encryption -/

/-- a ciphertext, with the key, nonce and plaintext it was made from -/
structure Sealing where
  key : SessionKey
  nonce : Nonce
  plaintext : Bytes
  ciphertext : Bytes
  deriving DecidableEq

section
variable [AesGcm]

/-- `encrypt`: the ciphertext, as a sealing, and the counter after the call -/
def encrypt (sessionKey : SessionKey) (plaintext : Bytes) (messageCount : UInt32) (reader : Bool) :
    Option Sealing × UInt32 :=
  match getInitializationVector messageCount reader with
  | none => (none, messageCount)
  | some (iv, count) =>
    match AesGcm.encryptWithBackend sessionKey iv plaintext with
    | some ciphertext => (some ⟨sessionKey, iv, plaintext, ciphertext⟩, count)
    | none => (none, messageCount)

def encryptDeviceData (skDevice : SessionKey) (plaintext : Bytes) (messageCount : UInt32) :
    Option Sealing × UInt32 := encrypt skDevice plaintext messageCount false

def encryptReaderData (skReader : SessionKey) (plaintext : Bytes) (messageCount : UInt32) :
    Option Sealing × UInt32 := encrypt skReader plaintext messageCount true

/-- `decrypt`: the plaintext and the counter after the call -/
def decrypt (sessionKey : SessionKey) (ciphertext : Bytes) (messageCount : UInt32) (reader : Bool) :
    Option Bytes × UInt32 :=
  match getInitializationVector messageCount reader with
  | none => (none, messageCount)
  | some (iv, count) =>
    match AesGcm.decryptWithBackend sessionKey iv ciphertext with
    | some plaintext => (some plaintext, count)
    | none => (none, messageCount)

def decryptDeviceData (skDevice : SessionKey) (ciphertext : Bytes) (messageCount : UInt32) :
    Option Bytes × UInt32 := decrypt skDevice ciphertext messageCount false

def decryptReaderData (skReader : SessionKey) (ciphertext : Bytes) (messageCount : UInt32) :
    Option Bytes × UInt32 := decrypt skReader ciphertext messageCount true

/-- **An encryption seals under the next count, or fails and leaves the counter.** -/
theorem encrypt_cases (sessionKey : SessionKey) (plaintext : Bytes) (messageCount : UInt32)
    (reader : Bool) :
    encrypt sessionKey plaintext messageCount reader = (none, messageCount) ∨
      ∃ count ciphertext, count.toNat = messageCount.toNat + 1 ∧
        AesGcm.encryptWithBackend sessionKey (initializationVector count reader) plaintext =
          some ciphertext ∧
        encrypt sessionKey plaintext messageCount reader =
          (some ⟨sessionKey, initializationVector count reader, plaintext, ciphertext⟩, count) := by
  unfold encrypt getInitializationVector
  cases hadd : messageCount.checkedAdd 1 with
  | none => exact .inl rfl
  | some count =>
    cases hseal : AesGcm.encryptWithBackend sessionKey (initializationVector count reader)
        plaintext with
    | none =>
      left
      simp only [hseal]
    | some ciphertext =>
      right
      refine ⟨count, ciphertext, UInt32.checkedAdd_one.mp hadd, hseal, ?_⟩
      simp only [hseal]

/-- **A decryption opens under the next count, or fails and leaves the counter.** -/
theorem decrypt_cases (sessionKey : SessionKey) (ciphertext : Bytes) (messageCount : UInt32)
    (reader : Bool) :
    decrypt sessionKey ciphertext messageCount reader = (none, messageCount) ∨
      ∃ count plaintext, count.toNat = messageCount.toNat + 1 ∧
        AesGcm.decryptWithBackend sessionKey (initializationVector count reader) ciphertext =
          some plaintext ∧
        decrypt sessionKey ciphertext messageCount reader = (some plaintext, count) := by
  unfold decrypt getInitializationVector
  cases hadd : messageCount.checkedAdd 1 with
  | none => exact .inl rfl
  | some count =>
    cases hopen : AesGcm.decryptWithBackend sessionKey (initializationVector count reader)
        ciphertext with
    | none =>
      left
      simp only [hopen]
    | some plaintext =>
      right
      refine ⟨count, plaintext, UInt32.checkedAdd_one.mp hadd, hopen, ?_⟩
      simp only [hopen]

/-- a decryption with room for the next count, as the backend decides it -/
theorem decrypt_of_count {messageCount count : UInt32} (h : count.toNat = messageCount.toNat + 1)
    (sessionKey : SessionKey) (ciphertext : Bytes) (reader : Bool) :
    decrypt sessionKey ciphertext messageCount reader =
      match AesGcm.decryptWithBackend sessionKey (initializationVector count reader) ciphertext with
      | some plaintext => (some plaintext, count)
      | none => (none, messageCount) := by
  unfold decrypt getInitializationVector
  rw [UInt32.checkedAdd_one.mpr h]

/-- **At the last count nothing is encrypted or decrypted, and the counter stays.** -/
theorem encrypt_decrypt_max {messageCount : UInt32} (h : messageCount.toNat = 2 ^ 32 - 1)
    (sessionKey : SessionKey) (bytes : Bytes) (reader : Bool) :
    encrypt sessionKey bytes messageCount reader = (none, messageCount) ∧
      decrypt sessionKey bytes messageCount reader = (none, messageCount) := by
  have hadd : messageCount.checkedAdd 1 = none := by
    rw [UInt32.checkedAdd, if_neg]
    rw [h]
    decide
  unfold encrypt decrypt getInitializationVector
  rw [hadd]
  exact ⟨rfl, rfl⟩

end

/-! ## the messages read back -/

theorem SessionData.toValue_eq (s : SessionData) :
    toValue s = .ok (.map ((BTreeMap.present
      [("data", s.data.map fun b => Value.bytes b.bytes),
       ("status", s.status.map fun t => Value.ofUInt64 t.toUInt64)]).map
        fun e => (.text e.1, e.2))) := by
  obtain ⟨data, status⟩ := s
  cases data <;> cases status <;> rfl

theorem SessionData.ofValue_toValue (s : SessionData) {v : Value} (h : toValue s = .ok v) :
    (ofValue v : Except String SessionData) = .ok s := by
  rw [SessionData.toValue_eq] at h
  cases h
  have hdata := Fields.optional_present (α := ByteStr) (a := s.data)
    (l := [("data", s.data.map fun b => Value.bytes b.bytes),
      ("status", s.status.map fun t => Value.ofUInt64 t.toUInt64)])
    (by simp) List.mem_cons_self (by
      cases s.data with
      | none => exact .inl ⟨rfl, rfl⟩
      | some b => exact .inr ⟨_, b, rfl, Value.noConfusion, rfl, rfl⟩)
  have hstatus := Fields.optional_present (α := Session.Status) (a := s.status)
    (l := [("data", s.data.map fun b => Value.bytes b.bytes),
      ("status", s.status.map fun t => Value.ofUInt64 t.toUInt64)])
    (by simp) (List.mem_cons_of_mem _ List.mem_cons_self) (by
      cases s.status with
      | none => exact .inl ⟨rfl, rfl⟩
      | some t =>
        exact .inr ⟨_, t, rfl, Value.noConfusion, rfl, Session.Status.ofValue_toUInt64 t⟩)
  show (Fields.ofValue _ _ >>= _) = _
  rw [Fields.ofValue_present, ok_bind, hdata, ok_bind, hstatus, ok_bind]

theorem SessionData.plain {s : SessionData} {v : Value} (h : toValue s = .ok v) (n : ℕ) :
    v.Plain (n + 1) := by
  rw [SessionData.toValue_eq] at h
  cases h
  apply plain_present
  intro e he v hv
  simp only [List.mem_cons, List.not_mem_nil, or_false] at he
  cases he with
  | inl he =>
    rw [he] at hv
    obtain ⟨b, -, rfl⟩ := Option.map_eq_some_iff.mp hv
    exact Value.plain_bytes n _
  | inr he =>
    rw [he] at hv
    obtain ⟨t, -, rfl⟩ := Option.map_eq_some_iff.mp hv
    exact Value.plain_ofUInt64 n _

theorem SessionData.toVec_isOk [Ciborium] (s : SessionData) : ∃ bytes, toVec s = .ok bytes :=
  ⟨_, toVec_ok s.toValue_eq⟩

/-- **A session message reads back from its bytes.** -/
theorem SessionData.fromSlice_toVec [LawfulCiborium] {s : SessionData} {bytes : Bytes}
    (h : toVec s = .ok bytes) : fromSlice SessionData bytes = .ok s := by
  obtain ⟨v, hv, rfl⟩ := toVec_eq_ok h
  exact LawfulCiborium.fromSlice_intoWriter (SessionData.plain hv 15) (s.ofValue_toValue hv)

namespace SessionEstablishment

def fields (s : SessionEstablishment) : List (String × Option Value) :=
  [("eReaderKey", some s.eReaderKey.toCbor), ("data", some (.bytes s.data.bytes))]

theorem toValue_eq [Ciborium] (s : SessionEstablishment) :
    toValue s = .ok (.map ((BTreeMap.present s.fields).map fun e => (.text e.1, e.2))) :=
  structValue_present s.fields

theorem ofValue_toValue [Ciborium] {s : SessionEstablishment}
    (hkey : fromSlice CoseKey s.eReaderKey.innerBytes = .ok s.eReaderKey.inner) :
    ofValue (.map ((BTreeMap.present s.fields).map fun e => (.text e.1, e.2))) = .ok s := by
  have hnodup : (s.fields.map Prod.fst).Nodup := by simp [fields]
  have hread := Fields.required_present (α := Tag24 CoseKey) (a := s.eReaderKey) hnodup
    List.mem_cons_self (Tag24.ofValue_toCbor hkey)
  have hdata := Fields.required_present (α := ByteStr) (a := s.data) hnodup
    (List.mem_cons_of_mem _ List.mem_cons_self) rfl
  show (Fields.ofValue _ _ >>= _) = _
  rw [Fields.ofValue_present, ok_bind, hread, ok_bind, hdata, ok_bind]

theorem plain (s : SessionEstablishment) (n : ℕ) :
    (Value.map ((BTreeMap.present s.fields).map fun e => (.text e.1, e.2))).Plain (n + 2) := by
  apply plain_present
  intro e he v hv
  simp only [fields, List.mem_cons, List.not_mem_nil, or_false] at he
  rcases he with rfl | rfl
  · cases hv
    exact ⟨by decide, by decide, Value.plain_bytes _ _⟩
  · cases hv
    exact Value.plain_bytes _ _

/-- **The message that opens a session reads back from its bytes.** -/
theorem fromSlice_toVec [LawfulCiborium] {s : SessionEstablishment}
    (hkey : fromSlice CoseKey s.eReaderKey.innerBytes = .ok s.eReaderKey.inner) {bytes : Bytes}
    (h : toVec s = .ok bytes) : fromSlice SessionEstablishment bytes = .ok s := by
  obtain ⟨v, hv, rfl⟩ := toVec_eq_ok h
  rw [toValue_eq] at hv
  cases hv
  exact LawfulCiborium.fromSlice_intoWriter (s.plain 14) (ofValue_toValue hkey)

end SessionEstablishment

end Isomdl
