import Isomdl.Presentation.DeviceVerdict

/-!
# A signature belongs to one session

The payload that a session exposes to be signed embeds the bytes of its transcript.  `ciborium` and
`coset` write different items to different bytes, so two sessions expose the same payload only when
they have the same transcript: a signature that was made in one session is over no payload of
another.

* `sameTranscript_iff`          a transcript, from its data item;
* `prepareDocument_payload`     what the payload of a prepared document determines;
* `session_binding`             over the runs of two sessions.
-/

set_option linter.unusedSectionVars false

namespace Isomdl

open Cbor

/-! ## transcripts -/

theorem Handover.toCbor_injective : Function.Injective Handover.toCbor := by
  intro a b h
  cases a with
  | QR => cases b <;> first | rfl | cases h
  | NFC select request =>
    cases b with
    | QR => cases h
    | OID4VP clientId nonce => cases request <;> cases h
    | NFC select' request' =>
      obtain ⟨s⟩ := select
      obtain ⟨s'⟩ := select'
      cases request with
      | none =>
        cases request' with
        | none =>
          cases h
          rfl
        | some r' => cases h
      | some r =>
        cases request' with
        | none => cases h
        | some r' =>
          obtain ⟨r⟩ := r
          obtain ⟨r'⟩ := r'
          cases h
          rfl
  | OID4VP clientId nonce =>
    cases b with
    | QR => cases h
    | NFC select request => cases request <;> cases h
    | OID4VP clientId' nonce' =>
      cases h
      rfl

/-- two transcripts with the same engagement bytes, the same reader key bytes and handover -/
structure SameTranscript (t t' : SessionTranscript180135) : Prop where
  deviceEngagement : t'.deviceEngagementBytes.innerBytes = t.deviceEngagementBytes.innerBytes
  eReaderKey : t'.eReaderKeyBytes.innerBytes = t.eReaderKeyBytes.innerBytes
  handover : t'.handover = t.handover

/-- **A transcript is its data item**, up to what was decoded of its bytes. -/
theorem sameTranscript_iff {t t' : SessionTranscript180135} :
    (toValue t' : Except String Value) = toValue t ↔ SameTranscript t t' := by
  constructor
  · intro h
    have hvalues := Value.array.inj (Except.ok.inj h)
    obtain ⟨hengagement, hrest⟩ := List.cons.inj hvalues
    obtain ⟨hkey, hrest⟩ := List.cons.inj hrest
    obtain ⟨hhandover, -⟩ := List.cons.inj hrest
    refine ⟨?_, ?_, Handover.toCbor_injective hhandover⟩
    · exact Value.bytes.inj (Value.tag.inj hengagement).2
    · exact Value.bytes.inj (Value.tag.inj hkey).2
  · intro h
    show Except.ok (Value.array [Value.tag 24 (.bytes t'.deviceEngagementBytes.innerBytes),
      Value.tag 24 (.bytes t'.eReaderKeyBytes.innerBytes), t'.handover.toCbor]) = _
    rw [h.deviceEngagement, h.eReaderKey, h.handover]
    rfl

theorem Handover.plain (h : Handover) (n : ℕ) : h.toCbor.Plain (n + 1) := by
  cases h with
  | QR => exact Value.plain_null _
  | NFC select request => cases request <;> simp [toCbor]
  | OID4VP clientId nonce => simp [toCbor]

theorem SessionTranscript180135.plain {t : SessionTranscript180135} {v : Value}
    (h : toValue t = .ok v) (n : ℕ) : v.Plain (n + 2) := by
  cases h
  intro u hu
  simp only [List.mem_cons, List.not_mem_nil, or_false] at hu
  rcases hu with rfl | rfl | rfl
  · exact ⟨by decide, by decide, Value.plain_bytes _ _⟩
  · exact ⟨by decide, by decide, Value.plain_bytes _ _⟩
  · exact Handover.plain _ n

/-! ## payloads -/

/-- the context string of an authentication type -/
def DeviceAuthType.context : DeviceAuthType → String
  | .Sign1 => "Signature1"
  | .Mac0 => "MAC0"

namespace Device

section
variable [LawfulCiborium]

/-- what the bytes that are signed over determine -/
theorem deviceAuthenticationBytes_inj {t t' : SessionTranscript180135} {docType docType' : String}
    {ns ns' : DeviceNamespacesBytes} {payload : Bytes}
    (h : deviceAuthenticationBytes t docType ns = some payload)
    (h' : deviceAuthenticationBytes t' docType' ns' = some payload) :
    SameTranscript t t' ∧ docType' = docType ∧ ns'.innerBytes = ns.innerBytes := by
  have hinner (t : SessionTranscript180135) (docType : String) (ns : DeviceNamespacesBytes) {v : Value}
      (hv : toValue t = .ok v) : toVec (⟨t, docType, ns⟩ :
        DeviceAuthentication SessionTranscript180135) = .ok (Ciborium.intoWriter
          (.array [.text "DeviceAuthentication", v, .text docType, ns.toCbor])) := by
    apply toVec_ok
    show (toValue t >>= fun transcript => (toValue ns : Except String Value) >>= _) = _
    rw [hv]
    rfl
  have hplain {v : Value} (hv : v.Plain 2) (docType : String) (ns : DeviceNamespacesBytes) :
      (Value.array [.text "DeviceAuthentication", v, .text docType, ns.toCbor]).Plain 16 := by
    refine Value.Plain.mono (m := 3) ?_ (by decide)
    intro u hu
    simp only [List.mem_cons, List.not_mem_nil, or_false] at hu
    rcases hu with rfl | rfl | rfl | rfl
    · exact Value.plain_text _ _
    · exact hv
    · exact Value.plain_text _ _
    · exact ⟨by decide, by decide, Value.plain_bytes _ _⟩
  have hbytes (bytes : Bytes) : (Value.tag 24 (.bytes bytes)).Plain 16 :=
    ⟨by decide, by decide, Value.plain_bytes _ _⟩
  obtain ⟨v, hv⟩ : ∃ v, (toValue t : Except String Value) = .ok v := ⟨_, rfl⟩
  obtain ⟨v', hv'⟩ : ∃ v, (toValue t' : Except String Value) = .ok v := ⟨_, rfl⟩
  rw [deviceAuthenticationBytes_eq, hinner t docType ns hv] at h
  rw [deviceAuthenticationBytes_eq, hinner t' docType' ns' hv'] at h'
  have htagged := LawfulCiborium.eq_of_intoWriter_eq (hbytes _) (hbytes _)
    ((Option.some.inj h').trans (Option.some.inj h).symm)
  have harray := LawfulCiborium.eq_of_intoWriter_eq (hplain (SessionTranscript180135.plain hv' 0) _ _)
    (hplain (SessionTranscript180135.plain hv 0) _ _) (Value.bytes.inj (Value.tag.inj htagged).2)
  obtain ⟨-, hrest⟩ := List.cons.inj (Value.array.inj harray)
  obtain ⟨htranscript, hrest⟩ := List.cons.inj hrest
  obtain ⟨hdocType, hrest⟩ := List.cons.inj hrest
  obtain ⟨hnamespaces, -⟩ := List.cons.inj hrest
  refine ⟨sameTranscript_iff.mp ?_, Value.text.inj hdocType,
    Value.bytes.inj (Value.tag.inj hnamespaces).2⟩
  rw [hv, hv', htranscript]

variable [FaithfulCiborium] [CosetHeader] [ReadableHeaders] [Coset] [LawfulCoset]

/-- the payload of a prepared structure, in bytes -/
theorem signaturePayload_eq {deviceAuthType : DeviceAuthType} {algorithm : Algorithm}
    (halgorithm : algorithm.Named) {payload : Bytes} {cose : PreparedCose}
    (h : prepareCose deviceAuthType algorithm payload = some cose) :
    ∃ bstr, ProtectedHeader.fromCborBstr bstr = .ok ⟨some bstr, Header.ofAlgorithm algorithm⟩ ∧
      cose.signaturePayload = Ciborium.intoWriter
        (.array [.text deviceAuthType.context, .bytes bstr, .bytes [], .bytes payload]) := by
  obtain ⟨bstr, hbstr, hread⟩ := cborBstr_ofAlgorithm halgorithm
  have hcose := prepareCose_eq_some h
  dsimp only at hcose
  cases deviceAuthType with
  | Sign1 =>
    rw [hcose]
    exact ⟨bstr, hread, LawfulCoset.sigStructureData_eq hbstr⟩
  | Mac0 =>
    rw [hcose]
    exact ⟨bstr, hread, LawfulCoset.macStructureData_eq hbstr⟩

/-- **What the payload of a prepared document determines**: the transcript of the session, the way
in which the device authenticates, the document type, and the algorithm of the device key. -/
theorem prepareDocument_payload {documents documents' : Documents} {t t' : SessionTranscript180135}
    {deviceAuthType deviceAuthType' : DeviceAuthType} {docType docType' : String}
    {namespaces namespaces' : BTreeMap String (List String)} {d d' : PreparedDocument}
    (hd : prepareDocument documents t deviceAuthType docType namespaces = some d)
    (hd' : prepareDocument documents' t' deviceAuthType' docType' namespaces' = some d')
    (h : d'.preparedCose.signaturePayload = d.preparedCose.signaturePayload) :
    SameTranscript t t' ∧ deviceAuthType' = deviceAuthType ∧ docType' = docType ∧
      ∃ document document', documents.toMap[docType]? = some document ∧ document.id = d.id ∧
        documents'.toMap[docType]? = some document' ∧ document'.id = d'.id ∧
        document'.mso.deviceKeyInfo.deviceKey.signatureAlgorithm =
          document.mso.deviceKeyInfo.deviceKey.signatureAlgorithm := by
  obtain ⟨document, algorithm, ns, payload, cose, hdocument, halgorithm, -, hpayload, hcose, rfl⟩ :=
    prepareDocument_eq_some.mp hd
  obtain ⟨document', algorithm', ns', payload', cose', hdocument', halgorithm', -, hpayload', hcose',
    rfl⟩ := prepareDocument_eq_some.mp hd'
  obtain ⟨bstr, hread, heq⟩ := signaturePayload_eq (signatureAlgorithm_named halgorithm) hcose
  obtain ⟨bstr', hread', heq'⟩ := signaturePayload_eq (signatureAlgorithm_named halgorithm') hcose'
  have hplain (context : String) (a b c : Bytes) :
      (Value.array [.text context, .bytes a, .bytes b, .bytes c]).Plain 16 := by simp
  have h : cose'.signaturePayload = cose.signaturePayload := h
  rw [heq, heq'] at h
  have harray := LawfulCiborium.eq_of_intoWriter_eq (hplain _ _ _ _) (hplain _ _ _ _) h
  obtain ⟨hcontext, hrest⟩ := List.cons.inj (Value.array.inj harray)
  obtain ⟨hbstr, hrest⟩ := List.cons.inj hrest
  obtain ⟨-, hrest⟩ := List.cons.inj hrest
  obtain ⟨hbytes, -⟩ := List.cons.inj hrest
  cases Value.bytes.inj hbstr
  cases Value.bytes.inj hbytes
  obtain ⟨htranscript, hdocType, -⟩ := deviceAuthenticationBytes_inj hpayload hpayload'
  refine ⟨htranscript, ?_, hdocType, document, document', hdocument, rfl, hdocType ▸ hdocument', rfl,
    ?_⟩
  · have hcontext := Value.text.inj hcontext
    cases deviceAuthType <;> cases deviceAuthType' <;>
      first | rfl | exact absurd hcontext (by decide)
  · rw [hread] at hread'
    cases hread'
    rw [halgorithm, halgorithm']

end

/-! ## sessions -/

section
variable [LawfulCiborium] [FaithfulCiborium] [CosetHeader] [ReadableHeaders] [Coset] [LawfulCoset]
  [X509Cert] [P256] [Sha2] [Clock] [AesGcm]

/-- the session was opened as `sm0`, and prepared every document that it has to sign -/
structure SignsOwn (sm0 sm : SessionManager) : Prop where
  fixed : sm.fixed = sm0.fixed
  signing : ∀ p, sm.state = .Signing p → ∀ d ∈ p.preparedDocuments, ∃ namespaces,
    prepareDocument sm0.documents sm0.sessionTranscript sm0.deviceAuthType d.docType namespaces =
      some d

theorem SignsOwn.start {sm0 : SessionManager} (hidle : sm0.Idle) : SignsOwn sm0 sm0 :=
  ⟨rfl, fun p hp => absurd hp (hidle p)⟩

/-- a request leaves what is being signed, or an error response without documents -/
theorem SignsOwn.receives {sm0 sm sm' : SessionManager} {ciphertext : Option Bytes}
    (h : SignsOwn sm0 sm) (hfixed : sm'.fixed = sm.fixed)
    (hreceives : SessionManager.Receives sm sm' ciphertext) : SignsOwn sm0 sm' := by
  refine ⟨hfixed.trans h.fixed, fun p hp d hd => ?_⟩
  cases hreceives.state with
  | inl hsame => exact h.signing p (hsame ▸ hp) d hd
  | inr herror =>
    obtain ⟨plaintext, e, -, hparse, hsigning⟩ := herror
    rw [hsigning] at hp
    cases hp
    obtain ⟨status, rfl⟩ := parseRequest_error_eq hparse
    cases hd

theorem SignsOwn.submits {sm0 sm : SessionManager} (h : SignsOwn sm0 sm) {signature : Bytes}
    {s : SessionManager.Submitted} (hs : sm.submitNextSignature signature = some s) :
    SignsOwn sm0 s.sm := by
  obtain ⟨hfixed, hignored | ⟨p, hp, hnext | hdone⟩⟩ := submitNextSignature_finishes hs
  · exact ⟨hfixed.trans h.fixed, fun p' hp' => absurd hp' (hignored.2.1 p')⟩
  · refine ⟨hfixed.trans h.fixed, fun p' hp' d hd => ?_⟩
    rw [hnext.1] at hp'
    cases hp'
    refine h.signing p hp d ?_
    unfold PreparedDeviceResponse.submitNextSignature at hd
    cases hlast : p.preparedDocuments.getLast? with
    | none =>
      simp only [hlast] at hd
      exact hd
    | some doc =>
      simp only [hlast] at hd
      exact List.mem_of_mem_dropLast hd
  · exact ⟨hfixed.trans h.fixed, fun p' hp' => absurd hp' (hdone.1 p')⟩

/-- **A step keeps whose documents are signed.** -/
theorem SignsOwn.next {sm0 sm sm' : SessionManager} {op : Operation} (h : SignsOwn sm0 sm)
    (hnext : sm.next op = some sm') : SignsOwn sm0 sm' := by
  obtain ⟨e, he, rfl⟩ := Option.map_eq_some_iff.mp hnext
  cases op with
  | handleDecodedRequest request =>
    cases he
    exact h.receives (handleDecodedRequest_fixed sm request)
      (SessionManager.handleDecodedRequest_receives sm request)
  | handleRequest request =>
    cases he
    exact h.receives (handleRequest_fixed sm request)
      (SessionManager.handleRequest_receives sm request)
  | prepareResponse requests permitted =>
    cases he
    refine ⟨h.fixed, fun p hp d hd => ?_⟩
    cases hp
    have hd : d ∈ (sm.prepares requests permitted).preparedDocuments := hd
    rw [SessionManager.prepares_congr h.fixed] at hd
    obtain ⟨namespaces, -, hprepared⟩ := mem_preparedDocuments.mp hd
    exact ⟨namespaces, hprepared⟩
  | getNextSignaturePayload =>
    cases he
    exact h
  | submitNextSignature signature =>
    obtain ⟨s, hs, rfl⟩ := Option.map_eq_some_iff.mp he
    exact h.submits hs
  | responseReady =>
    cases he
    exact h
  | retrieveResponse =>
    cases he
    show SignsOwn sm0 sm.retrieveResponse.2
    unfold SessionManager.retrieveResponse
    cases hstate : sm.state with
    | Signing p =>
      dsimp only
      refine ⟨h.fixed, fun p' hp' => ?_⟩
      exact h.signing p' (hstate ▸ hp')
    | AwaitingRequest =>
      dsimp only
      refine ⟨h.fixed, fun p' hp' => ?_⟩
      rw [hstate] at hp'
      cases hp'
    | ReadyToRespond r =>
      dsimp only
      exact ⟨h.fixed, fun p' hp' => by cases hp'⟩

theorem always_signsOwn {sm0 : SessionManager} (hidle : sm0.Idle) :
    Run.Always SessionManager.next sm0 (SignsOwn sm0) :=
  Run.Always.of_invariant (.start hidle) fun _ _ _ h hnext => h.next hnext

/-- the document that is signed next exposes this payload -/
def Exposes (sm : SessionManager) (d : PreparedDocument) (id : Uuid) (payload : Bytes) : Prop :=
  ∃ p, sm.state = .Signing p ∧ p.preparedDocuments.getLast? = some d ∧ d.id = id ∧
    d.preparedCose.signaturePayload = payload

/-- the document whose payload is exposed -/
theorem SignsOwn.exposes {sm0 sm : SessionManager} (h : SignsOwn sm0 sm) {id : Uuid}
    {payload : Bytes} (hpayload : sm.getNextSignaturePayload = some (id, payload)) :
    ∃ d namespaces, Exposes sm d id payload ∧
      prepareDocument sm0.documents sm0.sessionTranscript sm0.deviceAuthType d.docType namespaces =
        some d := by
  unfold SessionManager.getNextSignaturePayload at hpayload
  cases hstate : sm.state with
  | Signing p =>
    simp only [hstate] at hpayload
    obtain ⟨d, hd, heq⟩ := Option.map_eq_some_iff.mp hpayload
    cases heq
    obtain ⟨namespaces, hprepared⟩ := h.signing p hstate d (List.mem_of_getLast? hd)
    exact ⟨d, namespaces, ⟨p, hstate, hd, rfl, rfl⟩, hprepared⟩
  | AwaitingRequest =>
    simp only [hstate] at hpayload
    cases hpayload
  | ReadyToRespond r =>
    simp only [hstate] at hpayload
    cases hpayload

/-- the documents of this type have these identifiers, and device keys with one algorithm -/
def SameDocument (documents documents' : Documents) (docType : String) (id id' : Uuid) : Prop :=
  ∃ document document', documents.toMap[docType]? = some document ∧ document.id = id ∧
    documents'.toMap[docType]? = some document' ∧ document'.id = id' ∧
    document'.mso.deviceKeyInfo.deviceKey.signatureAlgorithm =
      document.mso.deviceKeyInfo.deviceKey.signatureAlgorithm

/-- **A payload belongs to one session.**  Over all runs of two sessions, whatever messages, calls
and signatures they are given: a payload that both expose to be signed is one of a session with the
same transcript and authentication type, and the documents that expose it have the same type. -/
theorem session_binding {sm sm' : SessionManager} (hidle : sm.Idle) (hidle' : sm'.Idle) :
    Run.Always SessionManager.next sm fun t => Run.Always SessionManager.next sm' fun t' =>
      ∀ id id' payload, t.getNextSignaturePayload = some (id, payload) →
        t'.getNextSignaturePayload = some (id', payload) →
          SameTranscript sm.sessionTranscript sm'.sessionTranscript ∧
          sm'.deviceAuthType = sm.deviceAuthType ∧
          ∃ d d', Exposes t d id payload ∧ Exposes t' d' id' payload ∧ d'.docType = d.docType ∧
            SameDocument sm.documents sm'.documents d.docType id id' := by
  refine (always_signsOwn hidle).mono fun t ht => (always_signsOwn hidle').mono fun t' ht' => ?_
  intro id id' payload hpayload hpayload'
  obtain ⟨d, namespaces, hd, hprepared⟩ := ht.exposes hpayload
  obtain ⟨d', namespaces', hd', hprepared'⟩ := ht'.exposes hpayload'
  obtain ⟨p, hp, hlast, rfl, hsame⟩ := hd
  obtain ⟨p', hp', hlast', rfl, hsame'⟩ := hd'
  obtain ⟨htranscript, htype, hdocType, hdocuments⟩ :=
    prepareDocument_payload hprepared hprepared' (hsame'.trans hsame.symm)
  exact ⟨htranscript, htype, d, d', ⟨p, hp, hlast, rfl, hsame⟩, ⟨p', hp', hlast', rfl, hsame'⟩,
    hdocType, hdocuments⟩

end

section
open scoped Reference

theorem session_binding_sample :
    ∃ t t' id id' payload,
      t = Sample.readableSession.prepareResponse Sample.requests Sample.permitted ∧
      t' = Sample.changedSession.prepareResponse Sample.requests Sample.permitted ∧
      t.getNextSignaturePayload = some (id, payload) ∧
      t'.getNextSignaturePayload = some (id', payload) ∧
      SameTranscript Sample.readableSession.sessionTranscript
        Sample.changedSession.sessionTranscript ∧
      ∃ d d', Exposes t d id payload ∧ Exposes t' d' id' payload ∧ d'.docType = d.docType ∧
        SameDocument Sample.readableSession.documents Sample.changedSession.documents d.docType
          id id' := by
  have hsame : ((Sample.readableSession.prepareResponse Sample.requests
      Sample.permitted).getNextSignaturePayload.any fun e =>
        (Sample.changedSession.prepareResponse Sample.requests
          Sample.permitted).getNextSignaturePayload.any fun e' => e'.2 == e.2) = true := by
    decide +kernel
  obtain ⟨e, he, hsame⟩ := Option.any_eq_true _ _ |>.mp hsame
  obtain ⟨e', he', heq⟩ := Option.any_eq_true _ _ |>.mp hsame
  have he' : _ = some (e'.1, e.2) := he'.trans (congrArg some (Prod.ext rfl (eq_of_beq heq)))
  have h := session_binding (fun p h => by cases h) (fun p h => by cases h)
    [.prepareResponse Sample.requests Sample.permitted] _ rfl
    [.prepareResponse Sample.requests Sample.permitted] _ rfl _ _ _ he he'
  exact ⟨_, _, _, _, _, rfl, rfl, he, he', h.1, h.2.2⟩

end

end Device

end Isomdl
