import Isomdl.Definitions.DeviceEngagement
import Isomdl.Reference.Crypto

/-!
# Engagements that read back (`definitions/device_engagement.rs`)

The codec of an engagement drops the protocol information and reads one version; what it embeds
travels as bytes.  An embedded item is coherent when its bytes decode to its value.

* `Tag24.fromBytes_eq_ok`          what is decoded is coherent, with the bytes it was decoded from;
* `Tag24.ofValue_toCbor_iff`       an embedded item reads back exactly when it is coherent;
* `DeviceEngagement.roundTrips_iff`   when an engagement reads back, from its bytes and its QR code.
-/

set_option linter.unusedSectionVars false

namespace Isomdl

open Cbor

namespace Tag24

section
variable [Ciborium] {T : Type} [Deserialize T]

/-- the bytes decode to the value -/
def Coherent (t : Tag24 T) : Prop := fromSlice T t.innerBytes = .ok t.inner

/-- **What is decoded is coherent.** -/
theorem fromBytes_eq_ok {innerBytes : Bytes} {t : Tag24 T} :
    fromBytes innerBytes = .ok t ↔ t.innerBytes = innerBytes ∧ t.Coherent := by
  obtain ⟨inner, bytes⟩ := t
  rw [fromBytes, Coherent]
  constructor
  · intro h
    cases hread : fromSlice T innerBytes with
    | error e =>
      rw [hread] at h
      cases h
    | ok value =>
      rw [hread] at h
      cases h
      exact ⟨rfl, hread⟩
  · rintro ⟨rfl, hread⟩
    rw [hread]
    rfl

theorem ofValue_toCbor_eq_ok {t t' : Tag24 T} :
    (ofValue t.toCbor : Except String (Tag24 T)) = .ok t' ↔
      t'.innerBytes = t.innerBytes ∧ t'.Coherent := by
  rw [← fromBytes_eq_ok]
  show (fromBytes t.innerBytes : Except Error (Tag24 T)).mapError Error.display = _ ↔ _
  cases (fromBytes t.innerBytes : Except Error (Tag24 T)) <;> simp [Except.mapError]

/-- **An embedded item reads back exactly when it is coherent.** -/
theorem ofValue_toCbor_iff {t : Tag24 T} :
    (ofValue t.toCbor : Except String (Tag24 T)) = .ok t ↔ t.Coherent := by
  rw [ofValue_toCbor_eq_ok]
  exact and_iff_right rfl

end

/-- a key that is embedded is coherent -/
theorem coherent_of_new_coseKey [LawfulCiborium] {k : CoseKey} {t : Tag24 CoseKey}
    (h : new k = .ok t) : t.Coherent := by
  obtain ⟨hinner, hbytes⟩ := new_ok h
  have hvec : toVec k = .ok (Ciborium.intoWriter k.toCbor) := toVec_ok rfl
  rw [hvec] at hbytes
  rw [Coherent, hinner, ← Except.ok.inj hbytes]
  exact k.fromSlice_intoWriter

end Tag24

namespace DeviceEngagement

/-- the engagements that the codec keeps: of the version it reads, with nothing that it drops -/
structure Kept (e : DeviceEngagement) : Prop where
  version : e.version = "1.0"
  protocolInfo : e.protocolInfo = none

section
variable [LawfulCiborium]

theorem toVec_eq (e : DeviceEngagement) : toVec e = .ok (Ciborium.intoWriter e.toCbor) :=
  toVec_ok rfl

/-- **An engagement reads back exactly when its embedded key is coherent.** -/
theorem fromSlice_intoWriter_iff {e : DeviceEngagement} (h : e.Kept) :
    fromSlice DeviceEngagement (Ciborium.intoWriter e.toCbor) = .ok e ↔
      e.security.eDeviceKeyBytes.Coherent := by
  constructor
  · intro hread
    obtain ⟨v, hv, hvalue⟩ := fromSlice_eq_ok hread
    rw [LawfulCiborium.fromReader_intoWriter _ (e.plain 12)] at hv
    cases hv
    have htry : (tryFrom e.toCbor).mapError Error.display = .ok e := hvalue
    rw [tryFrom_toCbor_eq h.version h.protocolInfo] at htry
    cases hkey : (ofValue e.security.eDeviceKeyBytes.toCbor : Except String (Tag24 CoseKey)) with
    | error e =>
      rw [hkey] at htry
      cases htry
    | ok k =>
      rw [hkey] at htry
      have hwith : e.withKey k = e := Except.ok.inj htry
      have hk : k = e.security.eDeviceKeyBytes := by
        rw [← hwith]
        rfl
      rw [← Tag24.ofValue_toCbor_iff, hkey, hk]
  · intro hkey
    exact fromSlice_intoWriter h.version h.protocolInfo (Tag24.ofValue_toCbor_iff.mpr hkey)

variable [LawfulBase64]

/-- **An engagement is read from its QR code exactly when it is coherent.** -/
theorem fromQrCodeUri_toQrCodeUri_iff {t : Tag24 DeviceEngagement} :
    fromQrCodeUri (toQrCodeUri t) = .ok t ↔ t.Coherent := by
  rw [fromQrCodeUri, toQrCodeUri, stripPrefix_append]
  show ((Base64.decode (Base64.encode t.innerBytes)) >>= fun decodedDe =>
    (Tag24.fromBytes decodedDe).mapError Tag24.Error.display) = _ ↔ _
  rw [LawfulBase64.decode_encode, ok_bind]
  exact Tag24.ofValue_toCbor_iff

/-- what makes an engagement in a QR code coherent -/
inductive Built : Tag24 DeviceEngagement → Prop
  | new {e : DeviceEngagement} {t : Tag24 DeviceEngagement} (h : e.Kept)
    (hkey : e.security.eDeviceKeyBytes.Coherent) (ht : Tag24.new e = .ok t) : Built t
  | fromBytes {bytes : Bytes} {t : Tag24 DeviceEngagement} (ht : Tag24.fromBytes bytes = .ok t) :
    Built t

theorem Built.coherent {t : Tag24 DeviceEngagement} (h : Built t) : t.Coherent := by
  cases h with
  | new hkept hkey ht =>
    obtain ⟨hinner, hbytes⟩ := Tag24.new_ok ht
    rw [toVec_eq] at hbytes
    rw [Tag24.Coherent, hinner, ← Except.ok.inj hbytes]
    exact (fromSlice_intoWriter_iff hkept).mpr hkey
  | fromBytes ht => exact (Tag24.fromBytes_eq_ok.mp ht).2

/-- **When an engagement reads back**: from its encoding exactly when its embedded key is coherent,
as a key that was embedded or decoded is; and from its QR code, with its bytes, exactly when it is
coherent, as one that was embedded or decoded is. -/
theorem roundTrips_iff :
    (∀ e : DeviceEngagement, e.Kept →
      ((∃ bytes, toVec e = .ok bytes ∧ fromSlice DeviceEngagement bytes = .ok e) ↔
        e.security.eDeviceKeyBytes.Coherent)) ∧
    (∀ t : Tag24 CoseKey, (∃ key, Tag24.new key = .ok t) ∨ (∃ bytes, Tag24.fromBytes bytes = .ok t) →
      t.Coherent) ∧
    (∀ t : Tag24 DeviceEngagement, fromQrCodeUri (toQrCodeUri t) = .ok t ↔ t.Coherent) ∧
    ∀ t : Tag24 DeviceEngagement, Built t → t.Coherent := by
  refine ⟨fun e he => ?_, fun t ht => ?_, fun t => fromQrCodeUri_toQrCodeUri_iff,
    fun t ht => ht.coherent⟩
  · rw [← fromSlice_intoWriter_iff he, toVec_eq]
    constructor
    · rintro ⟨bytes, hbytes, hread⟩
      cases hbytes
      exact hread
    · exact fun hread => ⟨_, rfl, hread⟩
  · rcases ht with ⟨key, hnew⟩ | ⟨bytes, hbytes⟩
    · exact Tag24.coherent_of_new_coseKey hnew
    · exact (Tag24.fromBytes_eq_ok.mp hbytes).2

end

section
open scoped Reference

namespace Sample

def key : CoseKey := .OKP .X25519 [1, 2, 3]

theorem length_uuid : (List.replicate 16 (1 : UInt8)).length = 16 := rfl

/-- an engagement with this embedded key, over BLE and NFC -/
def engagement (eDeviceKeyBytes : Tag24 CoseKey) : DeviceEngagement where
  version := "1.0"
  security := ⟨1, eDeviceKeyBytes⟩
  deviceRetrievalMethods := some ⟨[.BLE ⟨none, some ⟨⟨List.replicate 16 1, length_uuid⟩⟩⟩,
    .NFC ⟨⟨255, by decide⟩, ⟨256, by decide⟩⟩], List.cons_ne_nil _ _⟩
  serverRetrievalMethods := some ⟨none, some (1, "https://example.com", "token")⟩
  protocolInfo := none

end Sample

theorem roundTrips_iff_sample : ∃ t,
    Tag24.new Sample.key = .ok t ∧
      ∃ bytes, toVec (Sample.engagement t) = .ok bytes ∧
        fromSlice DeviceEngagement bytes = .ok (Sample.engagement t) := by
  refine ⟨⟨Sample.key, Ciborium.intoWriter Sample.key.toCbor⟩, rfl, ?_⟩
  exact (roundTrips_iff.1 _ ⟨rfl, rfl⟩).mpr (roundTrips_iff.2.1 _ (.inl ⟨Sample.key, rfl⟩))

/-- The bytes of an embedded key can be changed, and protocol information is not written. -/
theorem not_roundTrips :
    (¬ ∀ e : DeviceEngagement, e.version = "1.0" → e.protocolInfo = none →
      ∃ bytes, toVec e = .ok bytes ∧ fromSlice DeviceEngagement bytes = .ok e) ∧
    ¬ ∀ (e : DeviceEngagement) (t : Tag24 DeviceEngagement), Tag24.new e = .ok t →
      fromQrCodeUri (toQrCodeUri t) = .ok t := by
  constructor
  · intro h
    obtain ⟨bytes, hbytes, hread⟩ := h (Sample.engagement ⟨Sample.key, []⟩) rfl rfl
    rw [toVec_eq] at hbytes
    rw [← Except.ok.inj hbytes, fromSlice_intoWriter_iff ⟨rfl, rfl⟩] at hread
    have hempty : (fromSlice CoseKey []).toOption.isNone = true := by decide +kernel
    have hsome : fromSlice CoseKey [] = .ok Sample.key := hread
    rw [hsome] at hempty
    cases hempty
  · intro h
    let e : DeviceEngagement :=
      { Sample.engagement ⟨Sample.key, Ciborium.intoWriter Sample.key.toCbor⟩ with
        protocolInfo := some .null }
    have hqr := h e ⟨e, Ciborium.intoWriter e.toCbor⟩ rfl
    rw [fromQrCodeUri_toQrCodeUri_iff] at hqr
    have hdropped : ((fromSlice DeviceEngagement (Ciborium.intoWriter e.toCbor)).toOption.all
        fun e => e.protocolInfo.isNone) = true := by
      decide +kernel
    have hread : fromSlice DeviceEngagement (Ciborium.intoWriter e.toCbor) = .ok e := hqr
    rw [hread] at hdropped
    cases hdropped

end

end DeviceEngagement

end Isomdl
