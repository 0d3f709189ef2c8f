import Isomdl.Decoding
import Isomdl.Presentation.Handshake

/-!
# What the device is asked, over a run

Between two paired sessions with the ideal AEAD the device opens requests of the reader only, each
once and in order.  So what it is asked is what the reader asked for, whatever else arrives: every
opened message is a request for the namespaces that a call of the reader was given, and no arriving
message makes the device prepare an error response.

* `Reader.SessionManager.step_seals`   what a reader's ciphertext carries;
* `Asked.step`                         an action keeps the requests those of the record;
* `requests_agree`                     what the device was asked, and what it can be asked next.
-/

set_option linter.unusedSectionVars false

namespace Isomdl

open Cbor

/-- the plaintext is the request for these namespaces -/
def SealsRequest [Ciborium] [Coset] (namespaces : RequestNamespaces) (m : Sealing) : Prop :=
  ∃ request, Reader.SessionManager.deviceRequest namespaces = .ok request ∧
    toVec request = .ok m.plaintext

/-- the plaintext parses to one request, for these namespaces of an mDL -/
def ReadsRequest [Ciborium] [Coset] (namespaces : RequestNamespaces) (plaintext : Bytes) : Prop :=
  ∃ request, Device.parseRequest plaintext = .ok request ∧
    request.docRequests.toList.map (·.itemsRequest.inner) =
      [⟨Reader.MDL_DOC_TYPE, namespaces, none⟩]

/-! ## the reader's calls -/

namespace Reader

/-- the namespaces that a call asks for -/
def Operation.namespaces : Operation → Option RequestNamespaces
  | .buildRequest namespaces => some namespaces
  | .newRequest namespaces => some namespaces
  | _ => none

namespace SessionManager

section
variable [Ciborium] [Coset] [Rfc3339] [X509Cert] [P256] [Sha2] [Clock] [AesGcm]

/-- a request that is built is sealed as it was encoded -/
theorem buildRequest_seals {sm : SessionManager} {namespaces : RequestNamespaces} {m : Sealing}
    (h : (sm.buildRequest namespaces).1.toOption = some m) : SealsRequest namespaces m := by
  unfold buildRequest at h
  cases hrequest : deviceRequest namespaces with
  | error e =>
    rw [hrequest] at h
    cases h
  | ok request =>
    cases hbytes : toVec request with
    | error e =>
      simp only [hrequest, hbytes] at h
      cases h
    | ok bytes =>
      simp only [hrequest, hbytes] at h
      cases henc : encryptReaderData sm.skReader bytes sm.readerMessageCounter with
      | mk sealing count =>
        rw [henc] at h
        cases sealing with
        | none => cases h
        | some sealed =>
          cases h
          have hplain : m.plaintext = bytes := Device.SessionManager.encrypt_plaintext henc
          exact ⟨request, hrequest, by rw [hplain, hbytes]⟩

theorem newRequest_seals {sm : SessionManager} {namespaces : RequestNamespaces} {m : Sealing}
    (h : (sm.newRequest namespaces).sealing = some m) : SealsRequest namespaces m := by
  suffices hbuilt : (sm.buildRequest namespaces).1.toOption = some m from
    buildRequest_seals hbuilt
  unfold newRequest at h
  generalize sm.buildRequest namespaces = built at h ⊢
  obtain ⟨result, sm'⟩ := built
  cases result with
  | error e => cases h
  | ok sealing => exact h

/-- **A ciphertext of the reader carries the request that the call asked for.** -/
theorem step_seals {sm : SessionManager} {op : Operation} {e : Effect SessionManager}
    (h : sm.step op = some e) {m : Sealing} (hm : e.sealing = some m) :
    ∃ namespaces, op.namespaces = some namespaces ∧ SealsRequest namespaces m := by
  cases op with
  | buildRequest namespaces =>
    cases h
    exact ⟨namespaces, rfl, buildRequest_seals hm⟩
  | newRequest namespaces =>
    cases h
    exact ⟨namespaces, rfl, newRequest_seals hm⟩
  | decryptResponse response =>
    cases h
    cases hm
  | handleResponse response =>
    obtain ⟨handled, -, rfl⟩ := Option.map_eq_some_iff.mp h
    cases hm

end

end SessionManager

end Reader

/-! ## what a request says -/

/-- the request that is built asks for these namespaces of an mDL -/
theorem Reader.SessionManager.deviceRequest_items [Ciborium] [Coset] {namespaces : RequestNamespaces}
    {request : DeviceRequest} (h : deviceRequest namespaces = .ok request) :
    request.docRequests.toList.map (·.itemsRequest.inner) =
      [⟨MDL_DOC_TYPE, namespaces, none⟩] := by
  unfold deviceRequest at h
  obtain ⟨itemsRequest, hitems, h⟩ := bind_eq_ok h
  have hnew := mapError_eq_ok hitems
  cases h
  show [itemsRequest.inner] = _
  rw [(Tag24.new_ok hnew).1]

section
variable [LawfulCiborium] [Coset]

theorem SealsRequest.reads {namespaces : RequestNamespaces} {m : Sealing}
    (h : SealsRequest namespaces m) : ReadsRequest namespaces m.plaintext := by
  obtain ⟨request, hrequest, hbytes⟩ := h
  obtain ⟨request', bytes, hrequest', hbytes', hparse⟩ :=
    Reader.SessionManager.deviceRequest_reads namespaces
  rw [hrequest] at hrequest'
  cases hrequest'
  rw [hbytes] at hbytes'
  cases hbytes'
  exact ⟨request, hparse, Reader.SessionManager.deviceRequest_items hrequest⟩

end

namespace System

def Action.namespaces : Action → Option RequestNamespaces
  | .reader op => op.namespaces
  | .device _ => none

/-- the namespaces that the reader asked for, in the order of its calls -/
def requested (as : List Action) : List RequestNamespaces := as.filterMap Action.namespaces

theorem requested_append (as : List Action) (a : Action) :
    requested (as ++ [a]) = requested as ++ requested [a] := List.filterMap_append

section
variable [Ciborium] [Coset] [Rfc3339] [X509Cert] [P256] [Sha2] [Clock]

/-- the requests that were sent are those of some of the reader's calls, in order -/
structure Asked (as : List Action) (nss : List RequestNamespaces) (sent : List Sealing) : Prop where
  sublist : nss.Sublist (requested as)
  seals : List.Forall₂ SealsRequest nss sent

theorem Asked.silent {as : List Action} {nss : List RequestNamespaces} {sent : List Sealing}
    (h : Asked as nss sent) (a : Action) : Asked (as ++ [a]) nss (sent ++ []) := by
  refine ⟨?_, by rw [List.append_nil]; exact h.seals⟩
  rw [requested_append]
  exact h.sublist.trans (List.sublist_append_left _ _)

/-- **An action adds to the requests at most the one that it asks for.** -/
theorem Asked.step {aead : List Sealing → AesGcm} {as : List Action} {s t : System} {a : Action}
    {nss : List RequestNamespaces} (h : Asked as nss s.requests.sent)
    (hst : s.step aead a = some t) : ∃ nss', Asked (as ++ [a]) nss' t.requests.sent := by
  let _ := aead s.log
  cases a with
  | reader op =>
    obtain ⟨e, he, rfl⟩ := Option.map_eq_some_iff.mp hst
    show ∃ nss', Asked _ nss' (s.requests.sendOption e.sealing).sent
    rw [Channel.sendOption_sent]
    cases hsealing : e.sealing with
    | none => exact ⟨nss, h.silent _⟩
    | some m =>
      obtain ⟨namespaces, hop, hseals⟩ := Reader.SessionManager.step_seals he hsealing
      refine ⟨nss ++ [namespaces], ?_, List.rel_append h.seals (.cons hseals .nil)⟩
      have hlast : requested [Action.reader op] = [namespaces] := by
        have hnamespaces : (Action.reader op).namespaces = some namespaces := hop
        rw [requested, List.filterMap_cons_some hnamespaces]
        rfl
      rw [requested_append, hlast]
      exact h.sublist.append (List.Sublist.refl _)
  | device op =>
    obtain ⟨e, he, rfl⟩ := Option.map_eq_some_iff.mp hst
    have hsent : (s.deviceEffect e).requests.sent = s.requests.sent ++ [] := by
      rw [List.append_nil]
      exact Channel.deliverOption_sent _ _ _
    rw [hsent]
    exact ⟨nss, h.silent _⟩

end

/-! ## what the device hears -/

section
variable [LawfulCiborium] [Coset] [Rfc3339] [X509Cert] [P256] [Sha2] [Clock]

/-- what handling a message leaves when the reader's next request is for `next`: the session goes on
as it was, and is asked nothing or that request -/
structure Hears (device : Device.SessionManager) (next : Option RequestNamespaces)
    (handled : RequestAuthenticationOutcome × Device.SessionManager) : Prop where
  state : handled.2.state = device.state
  items : handled.1.itemsRequest = [] ∨ ∃ namespaces, next = some namespaces ∧
    handled.1.itemsRequest = [⟨Reader.MDL_DOC_TYPE, namespaces, none⟩]

/-- **A message that arrives is the reader's next request, or asks nothing.** -/
theorem Paired.hears {sealWith : SessionKey → Nonce → Bytes → Option Bytes} {p : Pairing}
    {s : System} (h : Paired p s) {nss : List RequestNamespaces}
    (hseals : List.Forall₂ SealsRequest nss s.requests.sent) (request : SessionData) :
    letI := idealAead sealWith s.log
    Hears s.device nss[s.requests.received.length]? (s.device.handleDecodedRequest request) := by
  let _ := idealAead sealWith s.log
  obtain ⟨data, status⟩ := request
  cases data with
  | none => exact ⟨rfl, .inl rfl⟩
  | some data =>
    unfold Device.SessionManager.handleDecodedRequest
    cases hdec : decryptReaderData s.device.skReader data.bytes s.device.readerMessageCounter with
    | mk plaintext count =>
      simp only [hdec]
      cases plaintext with
      | none => exact ⟨rfl, .inl rfl⟩
      | some plaintext =>
        have hopen : (decrypt s.device.skReader data.bytes s.device.readerMessageCounter true).1 =
            some plaintext := congrArg Prod.fst hdec
        cases h.inStep.requests.decrypt_eq sealWith h.requests h.sending.logOf_requests
            data.bytes with
        | inr hnone =>
          rw [hnone.2] at hopen
          cases hopen
        | inl hnext =>
          obtain ⟨m, hm, -, hplain⟩ := hnext
          rw [hopen] at hplain
          cases hplain
          obtain ⟨hi, hget⟩ := List.getElem?_eq_some_iff.mp hm
          have hi' : s.requests.received.length < nss.length := by
            rw [hseals.length_eq]
            exact hi
          have hseal := hseals.get hi' hi
          rw [List.get_eq_getElem, List.get_eq_getElem, hget] at hseal
          obtain ⟨request, hparse, hitems⟩ := hseal.reads
          simp only [hparse]
          exact ⟨rfl, .inr ⟨_, List.getElem?_eq_getElem hi', hitems⟩⟩

theorem Hears.handleRequest [AesGcm] {device : Device.SessionManager}
    {next : Option RequestNamespaces}
    (h : ∀ request, Hears device next (device.handleDecodedRequest request)) (message : Bytes) :
    Hears device next (device.handleRequest message) := by
  unfold Device.SessionManager.handleRequest
  cases fromSlice SessionData message with
  | error e => exact ⟨rfl, .inl rfl⟩
  | ok sessionData => exact h sessionData

/-- the device was asked what the reader asked for: with the namespaces of some of the reader's
calls, in order, every request that was sent is for those of its position, every message that was
opened reads as the request of its position, and what arrives is the next one or asks nothing -/
structure RequestsAgree [AesGcm] (nss : List RequestNamespaces) (s : System) : Prop where
  sent : List.Forall₂ SealsRequest nss s.requests.sent
  opened : List.Forall₂ ReadsRequest (nss.take s.requestsOpened.length) s.requestsOpened
  count : s.device.readerMessageCounter.toNat = s.requestsOpened.length
  decoded : ∀ request, Hears s.device nss[s.requestsOpened.length]?
    (s.device.handleDecodedRequest request)
  next : ∀ message, Hears s.device nss[s.requestsOpened.length]? (s.device.handleRequest message)

theorem Paired.requestsAgree {sealWith : SessionKey → Nonce → Bytes → Option Bytes} {p : Pairing}
    {s : System} (h : Paired p s) {nss : List RequestNamespaces}
    (hseals : List.Forall₂ SealsRequest nss s.requests.sent) :
    letI := idealAead sealWith s.log
    RequestsAgree nss s := by
  let _ := idealAead sealWith s.log
  have hlen : s.requestsOpened.length = s.requests.received.length := by
    rw [h.inStep.requests.opened, List.length_map]
  have hdecoded (request : SessionData) : Hears s.device nss[s.requestsOpened.length]?
      (s.device.handleDecodedRequest request) := by
    rw [hlen]
    exact h.hears hseals request
  refine ⟨hseals, ?_, ?_, hdecoded, Hears.handleRequest hdecoded⟩
  · have hsplit : s.requests.sent.take s.requests.received.length = s.requests.received :=
      (List.prefix_iff_eq_take.mp h.inStep.requests.fifo).symm
    have htake := List.forall₂_take s.requests.received.length hseals
    rw [hsplit] at htake
    rw [hlen, h.inStep.requests.opened, List.forall₂_map_right_iff]
    exact htake.imp fun _ _ hm => hm.reads
  · rw [h.inStep.requests.count, hlen]

/-- **The device is asked what the reader asked for.**  In every run of two sessions that share
their keys, with the ideal AEAD and whatever bytes arrive, the device opened the requests of the
reader's calls, in order, and each reads as a request for the namespaces of its call; the next
message that arrives is the next request or asks nothing, and none makes the device prepare an
error response. -/
theorem requests_agree (sealWith : SessionKey → Nonce → Bytes → Option Bytes) (p : Pairing) :
    Run.Recorded (step (idealAead sealWith)) (start p.reader p.device) fun as s =>
      ∃ nss, nss.Sublist (requested as) ∧
        letI := idealAead sealWith s.log
        RequestsAgree nss s := by
  have hinv : Run.Recorded (step (idealAead sealWith)) (start p.reader p.device) fun as s =>
      Paired p s ∧ ∃ nss, Asked as nss s.requests.sent := by
    refine Run.Recorded.of_invariant ⟨.start p, [], .slnil, .nil⟩ fun as s a t h hst => ?_
    obtain ⟨hpaired, nss, hasked⟩ := h
    exact ⟨hpaired.step hst, hasked.step hst⟩
  refine hinv.mono fun as s h => ?_
  obtain ⟨hpaired, nss, hasked⟩ := h
  exact ⟨nss, hasked.sublist, hpaired.requestsAgree hasked.seals⟩

end

end System

end Isomdl
