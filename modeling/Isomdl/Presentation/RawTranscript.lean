import Isomdl.Lib.Cbor.WellFormed
import Isomdl.Presentation.RawDeviceAuthentication
import Isomdl.Presentation.ResponseAuthentication

/-!
# The bytes around a raw transcript (`presentation/authentication/mdoc.rs`)

The transcript is copied between two elements of a hand-written array.  `from_slice` looks at one
item at its front, and the array has four elements exactly when nothing follows that item.
-/

set_option linter.unusedSectionVars false

namespace Isomdl

open Cbor

/-- a text string on the wire -/
def textItem (s : String) : Bytes := encodeHead 3 (utf8 s).length ++ utf8 s

/-- `24(<< … >>)` on the wire -/
def embeddedItem (bytes : Bytes) : Bytes := encodeHead 6 24 ++ (encodeHead 2 bytes.length ++ bytes)

/-- The bytes are one embedded item, whose content is one array of four elements: the context, the
transcript, the document type and the device's namespaces. -/
def IsDeviceAuthentication (sessionTranscriptCbor : Bytes) (docType : String)
    (namespaces : DeviceNamespacesBytes) (payload : Bytes) : Prop :=
  ∃ embedded content, Reads payload ⟨6, some 24, [embedded]⟩ ∧
    Reads embedded ⟨2, some content.length, [content]⟩ ∧
    Reads content ⟨4, some 4, [textItem "DeviceAuthentication", sessionTranscriptCbor,
      textItem docType, embeddedItem namespaces.innerBytes]⟩

/-- what a buffer can hold -/
def FitsBuffer (sessionTranscriptCbor : Bytes) (docType : String) (namespaces : DeviceNamespacesBytes) :
    Prop :=
  sessionTranscriptCbor.length + (utf8 docType).length + namespaces.innerBytes.length < 2 ^ 63

theorem length_encodeHead_le (major : Nat) {n : Nat} (h : n < 2 ^ 64) :
    (encodeHead major n).length ≤ 9 := by
  unfold encodeHead
  split_ifs
  all_goals simp only [List.length_cons, List.length_nil, length_beBytes]; try omega

theorem wellFormed_textItem {s : String} (h : (utf8 s).length < 2 ^ 64) :
    WellFormed (textItem s) :=
  ⟨_, reads_string (.inr rfl) h⟩

theorem wellFormed_embeddedItem {bytes : Bytes} (h : bytes.length < 2 ^ 64) :
    WellFormed (embeddedItem bytes) :=
  ⟨_, reads_tag (by decide) ⟨_, reads_string (.inl rfl) h⟩⟩

/-- the content that the code writes -/
def deviceAuthenticationContent (sessionTranscriptCbor : Bytes) (docType : String)
    (namespaces : DeviceNamespacesBytes) : Bytes :=
  encodeHead 4 4 ++ [textItem "DeviceAuthentication", sessionTranscriptCbor, textItem docType,
    embeddedItem namespaces.innerBytes].flatten

theorem length_deviceAuthenticationContent {sessionTranscriptCbor : Bytes} {docType : String}
    {namespaces : DeviceNamespacesBytes} (h : FitsBuffer sessionTranscriptCbor docType namespaces) :
    (deviceAuthenticationContent sessionTranscriptCbor docType namespaces).length < 2 ^ 64 := by
  unfold FitsBuffer at h
  have harray : (encodeHead 4 4).length = 1 := by decide
  have htag : (encodeHead 6 24).length = 2 := by decide
  have htitle : (textItem "DeviceAuthentication").length = 21 := by decide
  have hdocType := length_encodeHead_le 3 (n := (utf8 docType).length) (by omega)
  have hnamespaces := length_encodeHead_le 2 (n := namespaces.innerBytes.length) (by omega)
  simp only [deviceAuthenticationContent, List.flatten_cons, List.flatten_nil, List.length_append,
    List.length_nil, harray, htitle]
  simp only [textItem, embeddedItem, List.length_append, htag]
  omega

section
variable [Ciborium] [PreferredCiborium]

theorem rawDeviceAuthenticationPayload_bytes {sessionTranscriptCbor : Bytes} {docType : String}
    {namespaces : DeviceNamespacesBytes} (h : FitsBuffer sessionTranscriptCbor docType namespaces) :
    rawDeviceAuthenticationPayload sessionTranscriptCbor docType namespaces =
      .ok (embeddedItem (deviceAuthenticationContent sessionTranscriptCbor docType
        namespaces)) := by
  have hlength := length_deviceAuthenticationContent h
  unfold FitsBuffer at h
  have htitle : toVec "DeviceAuthentication" = .ok (textItem "DeviceAuthentication") :=
    congrArg Except.ok (PreferredCiborium.text (by decide))
  have hdocType : toVec docType = .ok (textItem docType) :=
    congrArg Except.ok (PreferredCiborium.text (by omega))
  have hhead : encodeHead 6 24 = [0xd8, 0x18] := by decide
  have hnamespaces : toVec namespaces = .ok (embeddedItem namespaces.innerBytes) := by
    rw [toVec_tag24 namespaces (by omega), embeddedItem, hhead, List.append_assoc]
  have hcontent : [0x84] ++ textItem "DeviceAuthentication" ++ sessionTranscriptCbor ++
      textItem docType ++ embeddedItem namespaces.innerBytes =
        deviceAuthenticationContent sessionTranscriptCbor docType namespaces := by
    have harray : encodeHead 4 4 = [0x84] := by decide
    simp only [deviceAuthenticationContent, harray, List.flatten_cons, List.flatten_nil,
      List.append_nil, List.append_assoc]
  unfold rawDeviceAuthenticationPayload
  rw [htitle, hdocType, hnamespaces]
  show Except.ok (appendByteStringHeader [0xd8, 0x18] ([0x84] ++ _ ++ _ ++ _ ++ _).length ++
    ([0x84] ++ _ ++ _ ++ _ ++ _)) = _
  rw [hcontent, appendByteStringHeader_eq _ hlength, embeddedItem, hhead, List.append_assoc]

theorem reads_embeddedItem {bytes : Bytes} (h : bytes.length < 2 ^ 64) :
    Reads (embeddedItem bytes) ⟨6, some 24, [encodeHead 2 bytes.length ++ bytes]⟩ ∧
      Reads (encodeHead 2 bytes.length ++ bytes) ⟨2, some bytes.length, [bytes]⟩ := by
  have hstring := reads_string (.inl rfl) h
  exact ⟨reads_tag (by decide) ⟨_, hstring⟩, hstring⟩

/-- **The payload is well formed exactly when the transcript is one item.** -/
theorem isDeviceAuthentication_iff {sessionTranscriptCbor : Bytes} {docType : String}
    {namespaces : DeviceNamespacesBytes} (h : FitsBuffer sessionTranscriptCbor docType namespaces) :
    IsDeviceAuthentication sessionTranscriptCbor docType namespaces
        (embeddedItem (deviceAuthenticationContent sessionTranscriptCbor docType namespaces)) ↔
      WellFormed sessionTranscriptCbor := by
  have hlength := length_deviceAuthenticationContent h
  constructor
  · rintro ⟨embedded, content, -, -, hcontent⟩
    exact hcontent.elements_wellFormed _ (by simp)
  · intro htranscript
    obtain ⟨hpayload, hembedded⟩ := reads_embeddedItem hlength
    unfold FitsBuffer at h
    have helements : ∀ e ∈ [textItem "DeviceAuthentication", sessionTranscriptCbor,
        textItem docType, embeddedItem namespaces.innerBytes], WellFormed e := by
      intro e he
      simp only [List.mem_cons, List.not_mem_nil, or_false] at he
      rcases he with rfl | rfl | rfl | rfl
      · exact wellFormed_textItem (by decide)
      · exact htranscript
      · exact wellFormed_textItem (by omega)
      · exact wellFormed_embeddedItem (by omega)
    exact ⟨_, _, hpayload, hembedded, reads_array (by simp) helements⟩

variable [Coset] [Rfc3339] [P256] [Sha2]

/-- A transcript that is accepted is verified in a payload that is one item, with the transcript
as one of its elements, exactly when it is one item itself: nothing may follow it. -/
theorem deviceAuthenticationWithRawSessionTranscript_wellFormed_iff
    {document : DeviceResponse.Document} {sessionTranscriptCbor : Bytes} {v : Value}
    (haccepted : fromSlice Value sessionTranscriptCbor = .ok v)
    (hfits : FitsBuffer sessionTranscriptCbor document.docType document.deviceSigned.namespaces) :
    ∃ payload, rawDeviceAuthenticationPayload sessionTranscriptCbor document.docType
        document.deviceSigned.namespaces = .ok payload ∧
      deviceAuthenticationWithRawSessionTranscript document sessionTranscriptCbor =
        verifyDeviceAuthenticationPayload document payload ∧
      (IsDeviceAuthentication sessionTranscriptCbor document.docType
          document.deviceSigned.namespaces payload ↔ WellFormed sessionTranscriptCbor) ∧
      ∀ item rest, WellFormed item → sessionTranscriptCbor = item ++ rest →
        (IsDeviceAuthentication sessionTranscriptCbor document.docType
          document.deviceSigned.namespaces payload ↔ rest = []) := by
  have hpayload := rawDeviceAuthenticationPayload_bytes hfits
  have hiff := isDeviceAuthentication_iff hfits
  refine ⟨_, hpayload, ?_, hiff, fun item rest hitem heq => ?_⟩
  · unfold deviceAuthenticationWithRawSessionTranscript
    rw [haccepted, hpayload]
    rfl
  · rw [hiff, heq]
    exact hitem.append_iff rest

end

open Reference Reader.Sample

/-- `[null]`, with the null in two bytes, is one item. -/
theorem deviceAuthenticationWithRawSessionTranscript_wellFormed_iff_sample :
    ∃ payload, rawDeviceAuthenticationPayload [0x81, 0xf8, 0x16] tampered.docType
        tampered.deviceSigned.namespaces = .ok payload ∧
      deviceAuthenticationWithRawSessionTranscript tampered [0x81, 0xf8, 0x16] =
        verifyDeviceAuthenticationPayload tampered payload ∧
      IsDeviceAuthentication [0x81, 0xf8, 0x16] tampered.docType
        tampered.deviceSigned.namespaces payload := by
  have haccepted : fromSlice Value [0x81, 0xf8, 0x16] = .ok (.array [.null]) := by decide +kernel
  have hfits : FitsBuffer [0x81, 0xf8, 0x16] tampered.docType
      tampered.deviceSigned.namespaces := by
    unfold FitsBuffer
    decide +kernel
  obtain ⟨payload, hpayload, hverifies, hiff, -⟩ :=
    deviceAuthenticationWithRawSessionTranscript_wellFormed_iff haccepted hfits
  exact ⟨payload, hpayload, hverifies, hiff.mpr ⟨_, 2, rfl⟩⟩

theorem not_wellFormed_two_nulls : ¬ WellFormed [0xf6, 0xf6] := by
  rintro ⟨item, fuel, hread⟩
  cases fuel with
  | zero => cases hread
  | succ fuel =>
    have hone : takeItem (fuel + 1) [0xf6, 0xf6] = some (⟨7, some 22, []⟩, [0xf6]) := rfl
    rw [hone] at hread
    cases hread

/-- Two items are accepted as a transcript. -/
theorem deviceAuthenticationWithRawSessionTranscript_not_wellFormed :
    ¬ ∀ (document : DeviceResponse.Document) (sessionTranscriptCbor payload : Bytes) (v : Value),
      fromSlice Value sessionTranscriptCbor = .ok v →
      rawDeviceAuthenticationPayload sessionTranscriptCbor document.docType
        document.deviceSigned.namespaces = .ok payload →
      IsDeviceAuthentication sessionTranscriptCbor document.docType
        document.deviceSigned.namespaces payload := by
  intro h
  have haccepted : fromSlice Value [0xf6, 0xf6] = .ok .null := by decide +kernel
  have hfits : FitsBuffer [0xf6, 0xf6] tampered.docType
      tampered.deviceSigned.namespaces := by
    unfold FitsBuffer
    decide +kernel
  have hitem := h tampered _ _ _ haccepted (rawDeviceAuthenticationPayload_bytes hfits)
  exact not_wellFormed_two_nulls ((isDeviceAuthentication_iff hfits).mp hitem)

end Isomdl
