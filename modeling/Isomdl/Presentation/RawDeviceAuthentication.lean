import Isomdl.Presentation.Disclosure

/-!
# Device authentication over a raw transcript (`presentation/authentication/mdoc.rs`)

A verifier that must keep the exact bytes of a session transcript writes the `DeviceAuthentication`
bytes around them by hand.

* `appendByteStringHeader_eq`                   the hand-written header of a byte string;
* `rawDeviceAuthenticationPayload_eq`           the payload is the one that `Tag24` writes;
* `deviceAuthenticationWithRawSessionTranscript_eq`
                                                so both verifiers give the same verdict.
-/

namespace Isomdl

open Cbor

/-- `ciborium` writes definite lengths with the shortest heads -/
class PreferredCiborium [Ciborium] : Prop where
  bytes {bs : Bytes} : bs.length < 2 ^ 64 →
    Ciborium.intoWriter (.bytes bs) = encodeHead 2 bs.length ++ bs
  text {s : String} : (utf8 s).length < 2 ^ 64 →
    Ciborium.intoWriter (.text s) = encodeHead 3 (utf8 s).length ++ utf8 s
  array {vs : List Value} : vs.length < 2 ^ 64 →
    Ciborium.intoWriter (.array vs) = encodeHead 4 vs.length ++ vs.flatMap Ciborium.intoWriter
  tag (t : UInt64) (v : Value) :
    Ciborium.intoWriter (.tag t v) = encodeHead 6 t.toNat ++ Ciborium.intoWriter v

/-- `append_byte_string_header` -/
def appendByteStringHeader (output : Bytes) (length : Nat) : Bytes :=
  if length ≤ 23 then output ++ [0x40 ||| UInt8.ofNat length]
  else if length ≤ 0xff then output ++ [0x58, UInt8.ofNat length]
  else if length ≤ 0xffff then output ++ 0x59 :: beBytes 2 (UInt16.ofNat length).toNat
  else if length ≤ 0xffffffff then output ++ 0x5a :: beBytes 4 (UInt32.ofNat length).toNat
  else output ++ 0x5b :: beBytes 8 (UInt64.ofNat length).toNat

/-- **The hand-written header is the head of a byte string**, on both sides of every boundary. -/
theorem appendByteStringHeader_eq (output : Bytes) {length : Nat} (h : length < 2 ^ 64) :
    appendByteStringHeader output length = output ++ encodeHead 2 length := by
  unfold appendByteStringHeader encodeHead
  by_cases h₀ : length < 24
  · have hor : ∀ n < 24, (0x40 : UInt8) ||| UInt8.ofNat n = UInt8.ofNat (32 * 2 + n) := by decide
    rw [if_pos (by omega), if_pos h₀, hor length h₀]
  rw [if_neg (by omega), if_neg h₀]
  by_cases h₁ : length < 256 ^ 1
  · rw [if_pos (by omega), if_pos h₁]
    show output ++ [0x58, UInt8.ofNat length] = output ++ [0x58, UInt8.ofNat (length / 256 ^ 0)]
    rw [pow_zero, Nat.div_one]
  rw [if_neg (by omega), if_neg h₁]
  by_cases h₂ : length < 256 ^ 2
  · rw [if_pos (by omega), if_pos h₂, UInt16.toNat_ofNat', Nat.mod_eq_of_lt (by omega)]
    rfl
  rw [if_neg (by omega), if_neg h₂]
  by_cases h₄ : length < 256 ^ 4
  · rw [if_pos (by omega), if_pos h₄, UInt32.toNat_ofNat', Nat.mod_eq_of_lt (by omega)]
    rfl
  rw [if_neg (by omega), if_neg h₄, if_pos (by omega), UInt64.toNat_ofNat',
    Nat.mod_eq_of_lt (by omega)]
  rfl

namespace Reference

theorem encodeList_eq (vs : List Value) : Cbor.encodeList vs = vs.flatMap Cbor.encode := by
  induction vs with
  | nil => rfl
  | cons v vs ih =>
    rw [Cbor.encodeList, ih]
    rfl

scoped instance preferredCiborium : PreferredCiborium where
  bytes _ := by
    show Cbor.encode _ = _
    rw [Cbor.encode]
  text _ := by
    show Cbor.encode _ = _
    rw [Cbor.encode]
  array _ := by
    show Cbor.encode _ = _
    rw [Cbor.encode, encodeList_eq]
    rfl
  tag _ _ := by
    show Cbor.encode _ = _
    rw [Cbor.encode]
    rfl

end Reference

section
variable [Ciborium]

/-- `raw_device_authentication_payload` -/
def rawDeviceAuthenticationPayload (sessionTranscriptCbor : Bytes) (docType : String)
    (namespaces : DeviceNamespacesBytes) : Except Authentication.Error Bytes := do
  let title ← (toVec "DeviceAuthentication").mapError fun _ => .cborDecodingError
  let docType ← (toVec docType).mapError fun _ => .cborDecodingError
  let namespaces ← (toVec namespaces).mapError fun _ => .cborDecodingError
  let deviceAuthentication := [0x84] ++ title ++ sessionTranscriptCbor ++ docType ++ namespaces
  .ok (appendByteStringHeader [0xd8, 0x18] deviceAuthentication.length ++ deviceAuthentication)

variable [PreferredCiborium]

/-- the encoding of a `DeviceAuthentication` -/
theorem toVec_deviceAuthentication {S : Type} [Serialize S] {sessionTranscript : S}
    {sessionTranscriptCbor : Bytes} (h : toVec sessionTranscript = .ok sessionTranscriptCbor)
    (docType : String) (namespaces : DeviceNamespacesBytes) :
    toVec (⟨sessionTranscript, docType, namespaces⟩ : DeviceAuthentication S) =
      .ok ([0x84] ++ Ciborium.intoWriter (.text "DeviceAuthentication") ++ sessionTranscriptCbor ++
        Ciborium.intoWriter (.text docType) ++ Ciborium.intoWriter namespaces.toCbor) := by
  obtain ⟨v, hv, rfl⟩ := toVec_eq_ok h
  have hvalue : toValue (⟨sessionTranscript, docType, namespaces⟩ : DeviceAuthentication S) =
      .ok (.array [.text "DeviceAuthentication", v, .text docType, namespaces.toCbor]) := by
    show (toValue sessionTranscript >>= _) = _
    rw [hv]
    rfl
  have hlength : [Value.text "DeviceAuthentication", v, .text docType,
    namespaces.toCbor].length < 2 ^ 64 := by
    show 4 < 2 ^ 64
    decide
  have hhead : encodeHead 4 4 = [0x84] := by decide
  rw [toVec_ok hvalue, PreferredCiborium.array hlength]
  show Except.ok (encodeHead 4 4 ++ _) = _
  rw [hhead]
  simp only [List.flatMap_cons, List.flatMap_nil, List.append_nil, List.append_assoc]

/-- the encoding of an embedded item -/
theorem toVec_tag24 {T : Type} [Serialize T] (t : Tag24 T) (h : t.innerBytes.length < 2 ^ 64) :
    toVec t = .ok ([0xd8, 0x18] ++ encodeHead 2 t.innerBytes.length ++ t.innerBytes) := by
  have hhead : encodeHead 6 (UInt64.toNat 24) = [0xd8, 0x18] := by decide
  rw [Tag24.toVec_eq]
  show Except.ok (Ciborium.intoWriter (.tag 24 (.bytes _))) = _
  rw [PreferredCiborium.tag, PreferredCiborium.bytes h, hhead, List.append_assoc]

/-- the hand-written encoding of an embedded `DeviceAuthentication` -/
theorem rawDeviceAuthenticationPayload_ok {S : Type} [Serialize S] {sessionTranscript : S}
    {sessionTranscriptCbor bytes : Bytes} {docType : String} {namespaces : DeviceNamespacesBytes}
    (h : toVec sessionTranscript = .ok sessionTranscriptCbor)
    (hbytes : toVec (⟨sessionTranscript, docType, namespaces⟩ : DeviceAuthentication S) = .ok bytes)
    (hlength : bytes.length < 2 ^ 64) :
    rawDeviceAuthenticationPayload sessionTranscriptCbor docType namespaces =
      .ok ([0xd8, 0x18] ++ encodeHead 2 bytes.length ++ bytes) := by
  rw [toVec_deviceAuthentication h] at hbytes
  have heq := Except.ok.inj hbytes
  rw [← appendByteStringHeader_eq _ hlength, ← heq]
  rfl

/-- **The raw payload is the typed one**, byte for byte. -/
theorem rawDeviceAuthenticationPayload_eq {S : Type} [Serialize S] {sessionTranscript : S}
    {sessionTranscriptCbor : Bytes} (h : toVec sessionTranscript = .ok sessionTranscriptCbor)
    (docType : String) (namespaces : DeviceNamespacesBytes)
    (hlength : ∀ bytes, toVec (⟨sessionTranscript, docType, namespaces⟩ :
      DeviceAuthentication S) = .ok bytes → bytes.length < 2 ^ 64) :
    ∃ payload, rawDeviceAuthenticationPayload sessionTranscriptCbor docType namespaces =
        .ok payload ∧
      ∃ tagged : Tag24 (DeviceAuthentication S),
        Tag24.new ⟨sessionTranscript, docType, namespaces⟩ = .ok tagged ∧
        toVec tagged = .ok payload := by
  have hbytes := toVec_deviceAuthentication h docType namespaces
  exact ⟨_, rawDeviceAuthenticationPayload_ok h hbytes (hlength _ hbytes), _,
    Tag24.new_of_toVec hbytes, toVec_tag24 _ (hlength _ hbytes)⟩

end

open Device.Sample Reference in
theorem rawDeviceAuthenticationPayload_eq_sample :
    ∃ payload, rawDeviceAuthenticationPayload (Ciborium.intoWriter (.array
        [sessionTranscript.deviceEngagementBytes.toCbor, sessionTranscript.eReaderKeyBytes.toCbor,
          Handover.QR.toCbor])) "org.iso.18013.5.1.mDL" ⟨∅, [0xa0]⟩ = .ok payload ∧
      ∃ tagged : Tag24 (DeviceAuthentication SessionTranscript180135),
        Tag24.new ⟨sessionTranscript, "org.iso.18013.5.1.mDL", ⟨∅, [0xa0]⟩⟩ = .ok tagged ∧
        toVec tagged = .ok payload := by
  refine rawDeviceAuthenticationPayload_eq rfl "org.iso.18013.5.1.mDL" _ ?_
  intro bytes h
  have hlength : (toVec (⟨sessionTranscript, "org.iso.18013.5.1.mDL", ⟨∅, [0xa0]⟩⟩ :
      DeviceAuthentication SessionTranscript180135)).toOption.all (·.length < 2 ^ 64) = true := by
    decide +kernel
  rw [h] at hlength
  exact of_decide_eq_true hlength

section
variable [Ciborium] [PreferredCiborium] [Coset] [Rfc3339] [P256] [Sha2]

/-- `device_authentication_with_raw_session_transcript` -/
def deviceAuthenticationWithRawSessionTranscript (document : DeviceResponse.Document)
    (sessionTranscriptCbor : Bytes) : Except Authentication.Error Unit := do
  let _ ← (fromSlice Value sessionTranscriptCbor).mapError fun _ =>
    Authentication.Error.cborDecodingError
  let cborPayload ← rawDeviceAuthenticationPayload sessionTranscriptCbor document.docType
    document.deviceSigned.namespaces
  verifyDeviceAuthenticationPayload document cborPayload

/-- **A transcript that the repository wrote can be checked raw or typed.** -/
theorem deviceAuthenticationWithRawSessionTranscript_eq {document : DeviceResponse.Document}
    {sessionTranscript : SessionTranscript180135} {sessionTranscriptCbor : Bytes} {v : Value}
    (h : toVec sessionTranscript = .ok sessionTranscriptCbor)
    (hread : fromSlice Value sessionTranscriptCbor = .ok v)
    (hlength : ∀ bytes, toVec (⟨sessionTranscript, document.docType,
      document.deviceSigned.namespaces⟩ : DeviceAuthentication SessionTranscript180135) = .ok bytes →
        bytes.length < 2 ^ 64) :
    deviceAuthenticationWithRawSessionTranscript document sessionTranscriptCbor =
      deviceAuthentication document sessionTranscript := by
  have hbytes := toVec_deviceAuthentication h document.docType document.deviceSigned.namespaces
  have hraw := rawDeviceAuthenticationPayload_ok h hbytes (hlength _ hbytes)
  unfold deviceAuthenticationWithRawSessionTranscript deviceAuthentication
  dsimp only
  rw [hread, hraw, Tag24.new_of_toVec hbytes]
  simp only [Except.mapError, ok_bind]
  rw [toVec_tag24 _ (hlength _ hbytes)]
  rfl

end

end Isomdl
