import Isomdl.Lib.Run
import Isomdl.Presentation.SelfCheck

/-!
# The self-checks along a run (`presentation/device.rs`)

A session that is not signing starts to sign when it prepares a response, or when a request does not
parse; what it then finalizes is made of the documents it holds.  `ciborium` and `coset` are taken to
read back what they write.  Then the self-checks of a response come down to the items in it: their
bytes must be an item's.  They are whenever the items come from a constructor or from a decoder, but
the bytes of an embedded item are a public field.

* `Prepares.next`                 what a step keeps of a response that is being signed;
* `selfChecks_iff_itemsRead`      when the self-checks pass, in a run.
-/

set_option linter.unusedSectionVars false

namespace Isomdl

open Cbor

namespace Device

section
variable [Ciborium] [Coset]

/-- `ciborium` reads back what it writes of the response -/
def CiboriumRoundTrips (r : DeviceResponse) : Prop :=
  ∀ v, toValue r = .ok v → Ciborium.fromReader (Ciborium.intoWriter v) = .ok v

/-- `coset` writes the signature, and reads it back as one that it writes alike -/
def CosetRoundTrips (c : MaybeTagged CoseSign1) : Prop :=
  ∃ v, toValue c = .ok v ∧ ∃ c' : MaybeTagged CoseSign1, ofValue v = .ok c' ∧ toValue c' = .ok v

/-- the bytes of every item in the response are an item's -/
def ItemsRead (r : DeviceResponse) : Prop :=
  ∀ d ∈ r.documentList, ∀ ns, ∀ t ∈ itemsOf d.issuerSigned.namespaces ns,
    ∃ inner, fromSlice IssuerSignedItem t.innerBytes = .ok inner

/-- the bytes of every item that is held are an item's -/
def HoldsItems (documents : Documents) : Prop :=
  ∀ (docType : String) (document : Document), documents.toMap[docType]? = some document →
    ∀ ns element t, document.held ns element = some t →
      ∃ inner, fromSlice IssuerSignedItem t.innerBytes = .ok inner

end

section
variable [LawfulCiborium] [FaithfulCiborium] [CosetHeader] [ReadableHeaders] [Coset] [LawfulCoset]

theorem exists_of_forall₂ {α β : Type} {R : α → β → Prop} {l : List α} {l' : List β}
    (h : List.Forall₂ R l l') {a : α} (ha : a ∈ l) : ∃ b ∈ l', R a b := by
  induction h with
  | nil => exact absurd ha List.not_mem_nil
  | cons hab _ ih =>
    rcases List.mem_cons.mp ha with rfl | ha
    · exact ⟨_, List.mem_cons_self, hab⟩
    · obtain ⟨b, hb, hR⟩ := ih ha
      exact ⟨b, List.mem_cons_of_mem _ hb, hR⟩

/-- **When a response passes the self-check**, made of documents whose signatures round-trip. -/
theorem selfChecks_iff {documents : Documents} {p : PreparedDeviceResponse}
    (heach : p.Each (FromHeld documents))
    (hcoset : ∀ (docType : String) (document : Document),
      documents.toMap[docType]? = some document → CosetRoundTrips document.issuerAuth)
    (hciborium : CiboriumRoundTrips p.finalizeResponse) :
    (∃ bytes, SessionManager.SelfChecks p.finalizeResponse bytes) ↔
      ItemsRead p.finalizeResponse := by
  constructor
  · rintro ⟨bytes, hbytes, r, hread, -⟩ d hd ns t ht
    have hkept := decodes_deviceResponse.fromSlice hbytes hread
    obtain ⟨d', -, hdocument⟩ := exists_of_forall₂ hkept hd
    obtain ⟨t', -, hsame⟩ := exists_of_forall₂ (hdocument.namespaces ns) ht
    exact ⟨t'.inner, hsame.2⟩
  · intro hitems
    have hrereads : Rereads AnyLayer 16 p.finalizeResponse := by
      refine heach.finalizeResponse fun d hd => ?_
      have hfrom := heach.documentList d hd
      obtain ⟨docType, document, hdocument, hauth, -⟩ := hfrom.held
      refine hfrom.rereads ?_ (hitems d hd)
      rw [hauth]
      obtain ⟨v, hv, hread⟩ := hcoset docType document hdocument
      exact ⟨v, hv, trivial, hread⟩
    obtain ⟨v, hv, -, r, hr, hback⟩ := hrereads
    refine ⟨_, toVec_ok hv, r, ?_, toVec_ok hback⟩
    rw [fromSlice, hciborium v hv, ok_bind, hr]

/-! ## runs -/

section
variable [X509Cert] [P256] [Sha2] [Clock] [AesGcm]

/-- the session after an operation that does not panic -/
def SessionManager.next (sm : SessionManager) (op : Operation) : Option SessionManager :=
  (sm.step op).map (·.sm)

theorem parseRequest_error_eq {plaintext : Bytes} {e : PreparedDeviceResponse}
    (h : parseRequest plaintext = .error e) : ∃ status, e = PreparedDeviceResponse.empty status := by
  unfold parseRequest at h
  cases hvalue : fromSlice Value plaintext with
  | error error =>
    rw [hvalue] at h
    cases h
    exact ⟨_, rfl⟩
  | ok value =>
    rw [hvalue] at h
    dsimp only at h
    cases hrequest : fromValue DeviceRequest value with
    | error error =>
      rw [hrequest] at h
      cases h
      exact ⟨_, rfl⟩
    | ok request =>
      rw [hrequest] at h
      cases h

/-- the session holds these documents, and what it signs is made of them -/
structure Prepares (documents : Documents) (sm : SessionManager) : Prop where
  holds : sm.documents = documents
  signing : ∀ p, sm.state = .Signing p → p.Each (FromHeld documents)

theorem handleDecodedRequest_documents (sm : SessionManager) (request : SessionData) :
    (sm.handleDecodedRequest request).2.documents = sm.documents := by
  unfold SessionManager.handleDecodedRequest
  cases request.data with
  | none => rfl
  | some data =>
    dsimp only
    rcases decryptReaderData sm.skReader data.bytes sm.readerMessageCounter with ⟨_ | plaintext, count⟩
    · rfl
    · dsimp only
      cases parseRequest plaintext <;> rfl

theorem handleRequest_documents (sm : SessionManager) (request : Bytes) :
    (sm.handleRequest request).2.documents = sm.documents := by
  unfold SessionManager.handleRequest
  cases fromSlice SessionData request with
  | error e => rfl
  | ok sessionData => exact handleDecodedRequest_documents sm sessionData

/-- a request leaves what is being signed, or an error response to sign -/
theorem Prepares.receives {documents : Documents} {sm sm' : SessionManager} {ciphertext : Option Bytes}
    (h : Prepares documents sm) (hdocuments : sm'.documents = sm.documents)
    (hreceives : SessionManager.Receives sm sm' ciphertext) : Prepares documents sm' := by
  refine ⟨hdocuments.trans h.holds, fun p hp => ?_⟩
  rcases hreceives.state with hsame | ⟨plaintext, e, -, hparse, hsigning⟩
  · exact h.signing p (hsame ▸ hp)
  · rw [hsigning] at hp
    cases hp
    obtain ⟨status, rfl⟩ := parseRequest_error_eq hparse
    exact .empty status

/-- what the encryption of a response leaves is not signing -/
theorem encryptResponse_leaves {sm : SessionManager} {response : DeviceResponse}
    {s : SessionManager.Submitted} (hstate : sm.state = .AwaitingRequest)
    (h : sm.encryptResponse response = some s) :
    s.sm.documents = sm.documents ∧ ∀ p, s.sm.state ≠ .Signing p := by
  by_cases hcheck : ∃ bytes, SessionManager.SelfChecks response bytes
  · obtain ⟨bytes, hcheck⟩ := hcheck
    obtain ⟨message, -, hok⟩ := SessionManager.encryptResponse_of_selfChecks sm hcheck
    rw [hok] at h
    cases h
    exact ⟨rfl, fun p hp => by cases hp⟩
  · rcases SessionManager.encryptResponse_of_not_selfChecks sm hcheck with hnone | ⟨e, herror⟩
    · rw [hnone] at h
      cases h
    · rw [herror] at h
      cases h
      refine ⟨rfl, fun p hp => ?_⟩
      rw [hstate] at hp
      cases hp

/-- **A signature goes to what is being signed.** -/
theorem Prepares.submitNextSignature {documents : Documents} {sm : SessionManager}
    (h : Prepares documents sm) {signature : Bytes} {s : SessionManager.Submitted}
    (hs : sm.submitNextSignature signature = some s) : Prepares documents s.sm := by
  unfold SessionManager.submitNextSignature at hs
  cases hstate : sm.state with
  | Signing p =>
    simp only [hstate] at hs
    by_cases hcomplete : (p.submitNextSignature signature).isComplete = true
    · rw [if_pos hcomplete] at hs
      obtain ⟨hdocuments, hleaves⟩ := encryptResponse_leaves rfl hs
      exact ⟨hdocuments.trans h.holds, fun p' hp => absurd hp (hleaves p')⟩
    · rw [if_neg hcomplete] at hs
      cases hs
      refine ⟨h.holds, fun p' hp => ?_⟩
      cases hp
      exact (h.signing p hstate).submitNextSignature signature
  | AwaitingRequest =>
    simp only [hstate] at hs
    cases hs
    exact h
  | ReadyToRespond r =>
    simp only [hstate] at hs
    cases hs
    exact h

/-- **A step keeps what a response is made of.** -/
theorem Prepares.next {documents : Documents} {sm sm' : SessionManager} {op : Operation}
    (h : Prepares documents sm) (hnext : sm.next op = some sm') : Prepares documents sm' := by
  obtain ⟨e, he, rfl⟩ := Option.map_eq_some_iff.mp hnext
  cases op with
  | handleDecodedRequest request =>
    cases he
    exact h.receives (handleDecodedRequest_documents sm request)
      (SessionManager.handleDecodedRequest_receives sm request)
  | handleRequest request =>
    cases he
    exact h.receives (handleRequest_documents sm request)
      (SessionManager.handleRequest_receives sm request)
  | prepareResponse requests permitted =>
    cases he
    refine ⟨h.holds, fun p hp => ?_⟩
    cases hp
    rw [← h.holds]
    exact each_sessionPrepareResponse
  | getNextSignaturePayload =>
    cases he
    exact h
  | submitNextSignature signature =>
    obtain ⟨s, hs, rfl⟩ := Option.map_eq_some_iff.mp he
    exact h.submitNextSignature hs
  | responseReady =>
    cases he
    exact h
  | retrieveResponse =>
    cases he
    refine ⟨?_, fun p hp => ?_⟩
    · show sm.retrieveResponse.2.documents = documents
      unfold SessionManager.retrieveResponse
      cases sm.state <;> exact h.holds
    · have hp' : sm.retrieveResponse.2.state = .Signing p := hp
      unfold SessionManager.retrieveResponse at hp'
      cases hstate : sm.state with
      | Signing q =>
        simp only [hstate] at hp'
        cases hp'
        exact h.signing p hstate
      | AwaitingRequest =>
        simp only [hstate] at hp'
        cases hp'
      | ReadyToRespond r =>
        simp only [hstate] at hp'
        cases hp'

/-- the last signature returns, and its response encodes, decodes and encodes to the same bytes -/
structure PassesSelfChecks (sm : SessionManager) (signature : Bytes) (response : DeviceResponse) :
    Prop where
  bytes : ∃ bytes, SessionManager.SelfChecks response bytes
  returns : ∃ s, sm.submitNextSignature signature = some s ∧ s.result = .ok ()

theorem passesSelfChecks_iff {sm : SessionManager} {p : PreparedDeviceResponse} {signature : Bytes}
    (hstate : sm.state = .Signing p)
    (hcomplete : (p.submitNextSignature signature).isComplete = true) :
    PassesSelfChecks sm signature (p.submitNextSignature signature).finalizeResponse ↔
      ∃ bytes, SessionManager.SelfChecks (p.submitNextSignature signature).finalizeResponse bytes := by
  refine ⟨fun h => h.bytes, fun ⟨bytes, hcheck⟩ => ⟨⟨bytes, hcheck⟩, ?_⟩⟩
  obtain ⟨message, -, hok⟩ := SessionManager.encryptResponse_of_selfChecks
    { sm with state := .AwaitingRequest } hcheck
  unfold SessionManager.submitNextSignature
  simp only [hstate]
  rw [if_pos hcomplete, hok]
  exact ⟨_, rfl, rfl⟩

/-- **When the self-checks pass.**  In every run of a session that does not start out signing, for
every signature that completes a response: the call returns, and the response encodes, decodes and
encodes to the same bytes, exactly when the bytes of its items are items'.  They are when those of
every item held are. -/
theorem selfChecks_iff_itemsRead {sm : SessionManager} (hstate : ∀ p, sm.state ≠ .Signing p)
    (hcoset : ∀ (docType : String) (document : Document),
      sm.documents.toMap[docType]? = some document → CosetRoundTrips document.issuerAuth) :
    Run.Always SessionManager.next sm fun sm' => ∀ p signature, sm'.state = .Signing p →
      (p.submitNextSignature signature).isComplete = true →
      CiboriumRoundTrips (p.submitNextSignature signature).finalizeResponse →
        (PassesSelfChecks sm' signature (p.submitNextSignature signature).finalizeResponse ↔
          ItemsRead (p.submitNextSignature signature).finalizeResponse) ∧
        (HoldsItems sm.documents →
          ItemsRead (p.submitNextSignature signature).finalizeResponse) := by
  have hstart : Prepares sm.documents sm := ⟨rfl, fun p hp => absurd hp (hstate p)⟩
  have hinv : Run.Always SessionManager.next sm (Prepares sm.documents) :=
    Run.Always.of_invariant hstart fun _ _ _ h hnext => h.next hnext
  refine hinv.mono fun sm' hprepares p signature hsigning hcomplete hciborium => ?_
  have heach := (hprepares.signing p hsigning).submitNextSignature signature
  refine ⟨?_, fun hitems d hd ns t ht => ?_⟩
  · rw [passesSelfChecks_iff hsigning hcomplete]
    exact selfChecks_iff heach hcoset hciborium
  · obtain ⟨docType, document, hdocument, -, hheld⟩ := (heach.documentList d hd).held
    obtain ⟨element, helement⟩ := hheld ns t ht
    exact hitems docType document hdocument ns element t helement

end

end

section
open scoped Reference

namespace Sample

theorem length_id : (List.replicate 16 (1 : UInt8)).length = 16 := rfl

/-- the session with other bytes in its item -/
def changedSession : SessionManager :=
  { readableSession with
    documents := NonEmptyMap.new "org.iso.18013.5.1.mDL"
      { id := ⟨List.replicate 16 1, length_id⟩
        issuerAuth := ⟨false, ⟨⟨none, Header.empty⟩, Header.empty, none, []⟩⟩
        mso := mso coseKey
        namespaces := NonEmptyMap.new "org.iso.18013.5.1"
          (NonEmptyMap.new "family_name" { readableItem with innerBytes := [] }) } }

theorem eq_of_getElem?_new {V : Type} {k k' : String} {v w : V}
    (h : (NonEmptyMap.new k v).toMap[k']? = some w) : w = v := by
  have hinsert : ((∅ : BTreeMap String V).insert k v)[k']? = some w := h
  rw [BTreeMap.getElem?_insert, Std.ExtTreeMap.getElem?_empty] at hinsert
  split at hinsert
  · exact (Option.some.inj hinsert).symm
  · cases hinsert

/-- the one item that is held reads back -/
theorem held_reads {docType : String} {document : Document} {ns element : String}
    {t : IssuerSignedItemBytes} (h : readableSession.documents.toMap[docType]? = some document)
    (ht : document.held ns element = some t) :
    ∃ inner, fromSlice IssuerSignedItem t.innerBytes = .ok inner := by
  rw [eq_of_getElem?_new h] at ht
  obtain ⟨items, hns, helement⟩ := Option.bind_eq_some_iff.mp ht
  rw [eq_of_getElem?_new hns] at helement
  rw [eq_of_getElem?_new helement]
  have hread : ((fromSlice IssuerSignedItem readableItem.innerBytes).toOption.any fun _ => true) =
      true := by
    decide +kernel
  obtain ⟨inner, hinner, -⟩ := exists_ok_of_any hread
  exact ⟨inner, hinner⟩

theorem cosetRoundTrips :
    CosetRoundTrips ⟨false, ⟨⟨none, Header.empty⟩, Header.empty, none, []⟩⟩ :=
  ⟨_, rfl, _, rfl, rfl⟩

/-- the response to the sample request, with one signature -/
def signedResponse (sm : SessionManager) : DeviceResponse :=
  ((sessionPrepareResponse sm.documents sm.sessionTranscript sm.deviceAuthType requests
    permitted).submitNextSignature [1]).finalizeResponse

theorem ciboriumRoundTrips {r : DeviceResponse}
    (h : (toValue r).toOption.any fun v =>
      (Ciborium.fromReader (Ciborium.intoWriter v)).toOption = some v) : CiboriumRoundTrips r := by
  intro v hv
  rw [hv] at h
  have hread := of_decide_eq_true h
  cases hfrom : Ciborium.fromReader (Ciborium.intoWriter v) with
  | error e =>
    rw [hfrom] at hread
    cases hread
  | ok w =>
    rw [hfrom] at hread
    cases hread
    rfl

end Sample

theorem selfChecks_iff_itemsRead_sample :
    PassesSelfChecks (Sample.readableSession.prepareResponse Sample.requests Sample.permitted) [1]
      (Sample.signedResponse Sample.readableSession) := by
  have hcoset (docType : String) (document : Document)
      (h : Sample.readableSession.documents.toMap[docType]? = some document) :
      CosetRoundTrips document.issuerAuth := by
    rw [Sample.eq_of_getElem?_new h]
    exact Sample.cosetRoundTrips
  have hciborium := Sample.ciboriumRoundTrips (r := Sample.signedResponse Sample.readableSession)
    (by decide +kernel)
  have hitems : HoldsItems Sample.readableSession.documents :=
    fun docType document h ns element t ht => Sample.held_reads h ht
  have hiff := selfChecks_iff_itemsRead (fun p h => by cases h) hcoset
    [.prepareResponse Sample.requests Sample.permitted] _ rfl _ [1] rfl (by decide +kernel) hciborium
  exact hiff.1.mpr (hiff.2 hitems)

/-- The bytes of a held item can be changed, and then the last signature panics. -/
theorem selfChecks_not_always :
    ¬ ∀ sm : SessionManager, (∀ p, sm.state ≠ .Signing p) →
      (∀ (docType : String) (document : Document),
        sm.documents.toMap[docType]? = some document → CosetRoundTrips document.issuerAuth) →
      Run.Always SessionManager.next sm fun sm' => ∀ p signature, sm'.state = .Signing p →
        (p.submitNextSignature signature).isComplete = true →
        CiboriumRoundTrips (p.submitNextSignature signature).finalizeResponse →
          PassesSelfChecks sm' signature (p.submitNextSignature signature).finalizeResponse := by
  intro h
  have hcoset (docType : String) (document : Document)
      (h : Sample.changedSession.documents.toMap[docType]? = some document) :
      CosetRoundTrips document.issuerAuth := by
    rw [Sample.eq_of_getElem?_new h]
    exact Sample.cosetRoundTrips
  have hciborium := Sample.ciboriumRoundTrips (r := Sample.signedResponse Sample.changedSession)
    (by decide +kernel)
  have hpasses := h Sample.changedSession (fun p h => by cases h) hcoset
    [.prepareResponse Sample.requests Sample.permitted]
    (Sample.changedSession.prepareResponse Sample.requests Sample.permitted) rfl _ [1] rfl
    (by decide +kernel) hciborium
  obtain ⟨s, hs, -⟩ := hpasses.returns
  have hpanics : ((Sample.changedSession.prepareResponse Sample.requests
      Sample.permitted).submitNextSignature [1]).isNone = true := by
    decide +kernel
  rw [hs] at hpanics
  cases hpanics

end

end Device

end Isomdl
