import Isomdl.Presentation.Binding
import Isomdl.Presentation.Reencoding
import Isomdl.Presentation.RequestAgreement
import Isomdl.Presentation.ResponseAuthentication

/-!
# What the reader is told, over a run

A response that the device encrypts is the one that a call of `prepare_response` prepared, with the
signatures that were submitted since; between two paired sessions with the ideal AEAD the reader
opens such responses only.

* `Records.step`       where the response of a session comes from, step by step;
* `responses_agree`    every response answers one call of `prepare_response`, each at most once.
-/

set_option linter.unusedSectionVars false

namespace Isomdl

open Cbor

namespace Device

/-! ## the record of a session -/

/-- the signature that an operation submits -/
def Operation.signature : Operation → Option Bytes
  | .submitNextSignature signature => some signature
  | _ => none

/-- the operation prepares a response -/
def Operation.Prepares : Operation → Prop
  | .prepareResponse _ _ => True
  | _ => False

/-- the operation is handed a message -/
def Operation.Hears : Operation → Prop
  | .handleDecodedRequest _ => True
  | .handleRequest _ => True
  | _ => False

/-- the signatures that were submitted, in order -/
def submitted (ops : List Operation) : List Bytes := ops.filterMap Operation.signature

namespace PreparedDeviceResponse

theorem signedBy_concat (p : PreparedDeviceResponse) (signatures : List Bytes) (signature : Bytes) :
    p.signedBy (signatures ++ [signature]) =
      (p.signedBy signatures).submitNextSignature signature := by
  induction signatures generalizing p with
  | nil =>
    rw [List.nil_append, signedBy_cons, signedBy_nil, signedBy_nil]
  | cons s signatures ih => rw [List.cons_append, signedBy_cons, ih, ← signedBy_cons]

/-- a step that may submit a signature -/
def submitOption (p : PreparedDeviceResponse) : Option Bytes → PreparedDeviceResponse
  | none => p
  | some signature => p.submitNextSignature signature

end PreparedDeviceResponse

section
variable [Ciborium] [Coset]

/-- what a session prepares for a call -/
def SessionManager.prepares (sm : SessionManager) (requests : RequestedItems)
    (permitted : PermittedItems) : PreparedDeviceResponse :=
  sessionPrepareResponse sm.documents sm.sessionTranscript sm.deviceAuthType requests permitted

/-- the response was prepared by the call at position `n`, the last that prepared one, and has the
signatures that were submitted since -/
def SignsSince (sm : SessionManager) (ops : List Operation) (n : ℕ) (p : PreparedDeviceResponse) :
    Prop :=
  ∃ requests permitted after,
    ops.drop n = .prepareResponse requests permitted :: after ∧
    (∀ op ∈ after, ¬ op.Prepares) ∧
    p = (sm.prepares requests permitted).signedBy (submitted after)

/-- the plaintext is the response that the call at position `n` prepared, signed for every document
with the signatures that were submitted before the next such call -/
def AnswersCall (sm : SessionManager) (ops : List Operation) (n : ℕ) (plaintext : Bytes) : Prop :=
  ∃ requests permitted after rest,
    ops.drop n = .prepareResponse requests permitted :: (after ++ rest) ∧
    (∀ op ∈ after, ¬ op.Prepares) ∧
    ((sm.prepares requests permitted).signedBy (submitted after)).isComplete = true ∧
    SessionManager.SelfChecks
      ((sm.prepares requests permitted).signedBy (submitted after)).finalizeResponse plaintext

theorem SignsSince.lt {sm : SessionManager} {ops : List Operation} {n : ℕ}
    {p : PreparedDeviceResponse} (h : SignsSince sm ops n p) : n < ops.length := by
  obtain ⟨requests, permitted, after, hdrop, -⟩ := h
  by_contra hle
  rw [List.drop_eq_nil_of_le (Nat.le_of_not_lt hle)] at hdrop
  cases hdrop

theorem AnswersCall.lt {sm : SessionManager} {ops : List Operation} {n : ℕ} {plaintext : Bytes}
    (h : AnswersCall sm ops n plaintext) : n < ops.length := by
  obtain ⟨requests, permitted, after, rest, hdrop, -⟩ := h
  by_contra hle
  rw [List.drop_eq_nil_of_le (Nat.le_of_not_lt hle)] at hdrop
  cases hdrop

theorem AnswersCall.append {sm : SessionManager} {ops : List Operation} {n : ℕ} {plaintext : Bytes}
    (h : AnswersCall sm ops n plaintext) (op : Operation) :
    AnswersCall sm (ops ++ [op]) n plaintext := by
  have hle := Nat.le_of_lt h.lt
  obtain ⟨requests, permitted, after, rest, hdrop, hafter, hcomplete, hchecks⟩ := h
  refine ⟨requests, permitted, after, rest ++ [op], ?_, hafter, hcomplete, hchecks⟩
  rw [List.drop_append_of_le_length hle, hdrop, List.cons_append, List.append_assoc]

/-- the operations that follow extend what has been submitted -/
theorem SignsSince.append {sm : SessionManager} {ops : List Operation} {n : ℕ}
    {p : PreparedDeviceResponse} (h : SignsSince sm ops n p) {op : Operation} (hop : ¬ op.Prepares) :
    SignsSince sm (ops ++ [op]) n (p.submitOption op.signature) := by
  have hle := Nat.le_of_lt h.lt
  obtain ⟨requests, permitted, after, hdrop, hafter, rfl⟩ := h
  refine ⟨requests, permitted, after ++ [op], ?_, ?_, ?_⟩
  · rw [List.drop_append_of_le_length hle, hdrop, List.cons_append]
  · intro op' hmem
    cases List.mem_append.mp hmem with
    | inl hold => exact hafter op' hold
    | inr hnew =>
      rw [List.mem_singleton.mp hnew]
      exact hop
  · show _ = (sm.prepares requests permitted).signedBy
      ((after ++ [op]).filterMap Operation.signature)
    rw [List.filterMap_append]
    cases hsig : op.signature with
    | none =>
      rw [List.filterMap_cons_none hsig, List.filterMap_nil, List.append_nil]
      rfl
    | some signature =>
      rw [List.filterMap_cons_some hsig, List.filterMap_nil]
      exact (PreparedDeviceResponse.signedBy_concat _ _ _).symm

theorem SignsSince.answers {sm : SessionManager} {ops : List Operation} {n : ℕ}
    {p : PreparedDeviceResponse} (h : SignsSince sm ops n p) (hcomplete : p.isComplete = true)
    {plaintext : Bytes} (hchecks : SessionManager.SelfChecks p.finalizeResponse plaintext) :
    AnswersCall sm ops n plaintext := by
  obtain ⟨requests, permitted, after, hdrop, hafter, rfl⟩ := h
  exact ⟨requests, permitted, after, [], by rw [hdrop, List.append_nil], hafter, hcomplete, hchecks⟩

/-- what a session is opened with, and keeps -/
def SessionManager.fixed (sm : SessionManager) :
    Documents × SessionTranscript180135 × DeviceAuthType :=
  (sm.documents, sm.sessionTranscript, sm.deviceAuthType)

theorem SessionManager.prepares_congr {sm sm' : SessionManager} (h : sm'.fixed = sm.fixed)
    (requests : RequestedItems) (permitted : PermittedItems) :
    sm'.prepares requests permitted = sm.prepares requests permitted := by
  have hdocuments : sm'.documents = sm.documents := congrArg (·.1) h
  have htranscript : sm'.sessionTranscript = sm.sessionTranscript := congrArg (·.2.1) h
  have htype : sm'.deviceAuthType = sm.deviceAuthType := congrArg (·.2.2) h
  rw [prepares, prepares, hdocuments, htranscript, htype]

/-! ### the record -/

/-- the session was opened as `sm0`, each ciphertext answers the call at its position, and what is
being signed was prepared by a later call -/
structure Records (sm0 : SessionManager) (ops : List Operation) (calls : List ℕ)
    (sm : SessionManager) (sealings : List Sealing) : Prop where
  fixed : sm.fixed = sm0.fixed
  ordered : calls.Pairwise (· < ·)
  answers : List.Forall₂ (fun n (m : Sealing) => AnswersCall sm0 ops n m.plaintext) calls sealings
  signing : ∀ p, sm.state = .Signing p → ∃ n, SignsSince sm0 ops n p ∧ ∀ k ∈ calls, k < n

section
variable {sm0 sm sm' : SessionManager} {ops : List Operation} {calls : List ℕ}
  {sealings : List Sealing}

theorem Records.start (hidle : sm0.Idle) : Records sm0 [] [] sm0 [] where
  fixed := rfl
  ordered := .nil
  answers := .nil
  signing p hp := absurd hp (hidle p)

theorem Records.answers_append (h : Records sm0 ops calls sm sealings) (op : Operation) :
    List.Forall₂ (fun n (m : Sealing) => AnswersCall sm0 (ops ++ [op]) n m.plaintext) calls
      sealings :=
  h.answers.imp fun _ _ hanswers => hanswers.append op

/-- an operation that makes no ciphertext and submits at most a signature -/
theorem Records.silent (h : Records sm0 ops calls sm sealings) {op : Operation}
    (hop : ¬ op.Prepares) (hfixed : sm'.fixed = sm.fixed)
    (hstate : ∀ p', sm'.state = .Signing p' →
      ∃ p, sm.state = .Signing p ∧ p' = p.submitOption op.signature) :
    Records sm0 (ops ++ [op]) calls sm' (sealings ++ []) := by
  refine ⟨hfixed.trans h.fixed, h.ordered, ?_, ?_⟩
  · rw [List.append_nil]
    exact h.answers_append op
  · intro p' hp'
    obtain ⟨p, hp, rfl⟩ := hstate p' hp'
    obtain ⟨n, hsigns, hlast⟩ := h.signing p hp
    exact ⟨n, hsigns.append hop, hlast⟩

/-- an operation that prepares a response -/
theorem Records.prepares (h : Records sm0 ops calls sm sealings) (requests : RequestedItems)
    (permitted : PermittedItems) :
    Records sm0 (ops ++ [.prepareResponse requests permitted]) calls
      (sm.prepareResponse requests permitted) (sealings ++ []) := by
  refine ⟨h.fixed, h.ordered, ?_, ?_⟩
  · rw [List.append_nil]
    exact h.answers_append _
  · intro p hp
    cases hp
    refine ⟨ops.length, ⟨requests, permitted, [], ?_, ?_, ?_⟩, ?_⟩
    · rw [List.drop_left]
    · intro op hop
      cases hop
    · show sm.prepares requests permitted = _
      rw [SessionManager.prepares_congr h.fixed]
      exact (PreparedDeviceResponse.signedBy_nil _).symm
    · intro k hk
      obtain ⟨i, hi, rfl⟩ := List.getElem_of_mem hk
      exact (h.answers.get hi (h.answers.length_eq ▸ hi)).lt

end

end

/-! ## one operation -/

section
variable [Ciborium] [Coset] [X509Cert] [P256] [Sha2] [Clock] [AesGcm]

theorem handleDecodedRequest_fixed (sm : SessionManager) (request : SessionData) :
    (sm.handleDecodedRequest request).2.fixed = sm.fixed := by
  unfold SessionManager.handleDecodedRequest
  cases request.data with
  | none => rfl
  | some data =>
    dsimp only
    cases decryptReaderData sm.skReader data.bytes sm.readerMessageCounter with
    | mk plaintext count =>
      cases plaintext with
      | none => rfl
      | some plaintext =>
        dsimp only
        cases parseRequest plaintext <;> rfl

theorem handleRequest_fixed (sm : SessionManager) (request : Bytes) :
    (sm.handleRequest request).2.fixed = sm.fixed := by
  unfold SessionManager.handleRequest
  cases fromSlice SessionData request with
  | error e => rfl
  | ok sessionData => exact handleDecodedRequest_fixed sm sessionData

/-- what the end of a signing leaves: nothing is being signed, and a ciphertext carries the
response -/
theorem encryptResponse_finishes {sm : SessionManager} {response : DeviceResponse}
    {s : SessionManager.Submitted} (hidle : sm.Idle) (h : sm.encryptResponse response = some s) :
    s.sm.fixed = sm.fixed ∧ s.sm.Idle ∧
      ∀ m, s.sealing = some m → SessionManager.SelfChecks response m.plaintext := by
  refine ⟨?_, SessionManager.encryptResponse_idle hidle h, ?_⟩
  · cases SessionManager.encryptResponse_cases sm response with
    | inl hready =>
      obtain ⟨s', message, hs, ⟨bytes, -, -, hsm⟩⟩ := hready
      rw [hs] at h
      cases h
      rw [hsm]
      rfl
    | inr hfailed =>
      obtain ⟨-, hnone | ⟨s', hs, hsm⟩⟩ := hfailed
      · rw [hnone] at h
        cases h
      · rw [hs] at h
        cases h
        rw [hsm]
  · intro m hm
    by_cases hcheck : ∃ bytes, SessionManager.SelfChecks response bytes
    · obtain ⟨bytes, hcheck⟩ := hcheck
      obtain ⟨message, -, hok⟩ := SessionManager.encryptResponse_of_selfChecks sm hcheck
      rw [hok] at h
      cases h
      have hpair : encryptDeviceData sm.skDevice bytes sm.deviceMessageCounter =
          (some m, (encryptDeviceData sm.skDevice bytes sm.deviceMessageCounter).2) :=
        Prod.ext hm rfl
      have hplain : m.plaintext = bytes := SessionManager.encrypt_plaintext hpair
      rw [hplain]
      exact hcheck
    · cases SessionManager.encryptResponse_of_not_selfChecks sm hcheck with
      | inl hnone =>
        rw [hnone] at h
        cases h
      | inr herror =>
        obtain ⟨e, herror⟩ := herror
        rw [herror] at h
        cases h
        cases hm

/-- **A signature**: it is ignored, goes to the next document, or completes the response. -/
theorem submitNextSignature_finishes {sm : SessionManager} {signature : Bytes}
    {s : SessionManager.Submitted} (h : sm.submitNextSignature signature = some s) :
    s.sm.fixed = sm.fixed ∧
      ((sm.Idle ∧ s.sm.Idle ∧ s.sealing = none) ∨
        ∃ p, sm.state = .Signing p ∧
          ((s.sm.state = .Signing (p.submitNextSignature signature) ∧ s.sealing = none) ∨
            (s.sm.Idle ∧ ∀ m, s.sealing = some m →
              (p.submitNextSignature signature).isComplete = true ∧
              SessionManager.SelfChecks (p.submitNextSignature signature).finalizeResponse
                m.plaintext))) := by
  unfold SessionManager.submitNextSignature at h
  cases hstate : sm.state with
  | Signing p =>
    simp only [hstate] at h
    by_cases hcomplete : (p.submitNextSignature signature).isComplete = true
    · rw [if_pos hcomplete] at h
      obtain ⟨hfixed, hidle, hseals⟩ := encryptResponse_finishes (fun q hq => by cases hq) h
      exact ⟨hfixed, .inr ⟨p, rfl, .inr ⟨hidle, fun m hm => ⟨hcomplete, hseals m hm⟩⟩⟩⟩
    · rw [if_neg hcomplete] at h
      cases h
      exact ⟨rfl, .inr ⟨p, rfl, .inl ⟨rfl, rfl⟩⟩⟩
  | AwaitingRequest =>
    simp only [hstate] at h
    cases h
    have hidle : sm.Idle := fun p hp => by rw [hstate] at hp; cases hp
    exact ⟨rfl, .inl ⟨hidle, hidle, rfl⟩⟩
  | ReadyToRespond r =>
    simp only [hstate] at h
    cases h
    have hidle : sm.Idle := fun p hp => by rw [hstate] at hp; cases hp
    exact ⟨rfl, .inl ⟨hidle, hidle, rfl⟩⟩

section
variable {sm0 sm : SessionManager} {ops : List Operation} {calls : List ℕ}
  {sealings : List Sealing}

/-- **A signature** goes to the response, which a ciphertext carries when it is complete. -/
theorem Records.submits (h : Records sm0 ops calls sm sealings) {signature : Bytes}
    {s : SessionManager.Submitted} (hs : sm.submitNextSignature signature = some s) :
    ∃ calls', Records sm0 (ops ++ [.submitNextSignature signature]) calls' s.sm
      (sealings ++ s.sealing.toList) := by
  obtain ⟨hfixed, hignored | ⟨p, hp, hnext | hdone⟩⟩ := submitNextSignature_finishes hs
  · obtain ⟨-, hidle, hnone⟩ := hignored
    rw [hnone]
    exact ⟨calls, h.silent (fun hop => hop) hfixed fun p' hp' => absurd hp' (hidle p')⟩
  · obtain ⟨hstate, hnone⟩ := hnext
    rw [hnone]
    refine ⟨calls, h.silent (fun hop => hop) hfixed fun p' hp' => ⟨p, hp, ?_⟩⟩
    rw [hstate] at hp'
    cases hp'
    rfl
  · obtain ⟨hidle, hseals⟩ := hdone
    cases hsealing : s.sealing with
    | none => exact ⟨calls, h.silent (fun hop => hop) hfixed fun p' hp' => absurd hp' (hidle p')⟩
    | some m =>
      obtain ⟨hcomplete, hchecks⟩ := hseals m hsealing
      obtain ⟨n, hsigns, hlast⟩ := h.signing p hp
      have hsigns' : SignsSince sm0 (ops ++ [.submitNextSignature signature]) n
          (p.submitNextSignature signature) := hsigns.append fun hop => hop
      refine ⟨calls ++ [n], hfixed.trans h.fixed, ?_, ?_, fun p' hp' => absurd hp' (hidle p')⟩
      · rw [List.pairwise_append]
        refine ⟨h.ordered, List.pairwise_singleton _ _, fun k hk n' hn' => ?_⟩
        rw [List.mem_singleton.mp hn']
        exact hlast k hk
      · exact List.rel_append (h.answers_append _) (.cons (hsigns'.answers hcomplete hchecks) .nil)

/-- **An operation keeps the record**, when no message that arrives replaces what is signed. -/
theorem Records.step (h : Records sm0 ops calls sm sealings) {op : Operation}
    {e : Effect SessionManager} (he : sm.step op = some e)
    (hhears : op.Hears → e.sm.state = sm.state) :
    ∃ calls', Records sm0 (ops ++ [op]) calls' e.sm (sealings ++ e.sealing.toList) := by
  have hkept (hstate : e.sm.state = sm.state) (p' : PreparedDeviceResponse)
      (hp' : e.sm.state = .Signing p') : ∃ p, sm.state = .Signing p ∧ p' = p.submitOption none :=
    ⟨p', hstate ▸ hp', rfl⟩
  cases op with
  | handleDecodedRequest request =>
    have hstate := hhears trivial
    cases he
    exact ⟨calls, h.silent (fun hop => hop) (handleDecodedRequest_fixed sm request) (hkept hstate)⟩
  | handleRequest request =>
    have hstate := hhears trivial
    cases he
    exact ⟨calls, h.silent (fun hop => hop) (handleRequest_fixed sm request) (hkept hstate)⟩
  | prepareResponse requests permitted =>
    cases he
    exact ⟨calls, h.prepares requests permitted⟩
  | getNextSignaturePayload =>
    cases he
    exact ⟨calls, h.silent (fun hop => hop) rfl (hkept rfl)⟩
  | submitNextSignature signature =>
    obtain ⟨s, hs, rfl⟩ := Option.map_eq_some_iff.mp he
    exact h.submits hs
  | responseReady =>
    cases he
    exact ⟨calls, h.silent (fun hop => hop) rfl (hkept rfl)⟩
  | retrieveResponse =>
    cases he
    refine ⟨calls, h.silent (fun hop => hop) ?_ fun p' hp' => ⟨p', ?_, rfl⟩⟩
    · unfold SessionManager.retrieveResponse
      cases sm.state <;> rfl
    · have hp : sm.retrieveResponse.2.state = .Signing p' := hp'
      unfold SessionManager.retrieveResponse at hp
      cases hstate : sm.state with
      | Signing p =>
        simp only [hstate] at hp
        exact hp
      | AwaitingRequest =>
        simp only [hstate] at hp
        cases hp
      | ReadyToRespond r =>
        simp only [hstate] at hp
        cases hp

end

end

end Device

namespace System

/-- the calls of the device, in order -/
def Action.operation : Action → Option Device.Operation
  | .reader _ => none
  | .device op => some op

def deviceOperations (as : List Action) : List Device.Operation := as.filterMap Action.operation

section
variable [LawfulCiborium] [Coset] [Rfc3339] [X509Cert] [P256] [Sha2] [Clock]

/-! ## what the reader opens -/

/-- with the positions of some calls of `prepare_response` in the record of the device, in
increasing order: every ciphertext that was sent answers the call at its position, so does every
message that the reader opened, and what the reader decrypts next is the answer to the next one -/
structure ResponsesAgree [AesGcm] (device : Device.SessionManager) (ops : List Device.Operation)
    (calls : List ℕ) (s : System) : Prop where
  ordered : calls.Pairwise (· < ·)
  sent : List.Forall₂ (fun n (m : Sealing) => Device.AnswersCall device ops n m.plaintext) calls
    s.responses.sent
  opened : List.Forall₂ (Device.AnswersCall device ops) (calls.take s.responsesOpened.length)
    s.responsesOpened
  count : s.reader.deviceMessageCounter.toNat = s.responsesOpened.length
  next : ∀ message response, (s.reader.decryptResponse message).1 = .ok response →
    ∃ n plaintext, calls[s.responsesOpened.length]? = some n ∧
      s.reader.opened (carriedCiphertext message) = some plaintext ∧
      Device.AnswersCall device ops n plaintext ∧
      fromSlice DeviceResponse plaintext = .ok response

/-- what the reader decrypts is the next message that the device sent -/
theorem Paired.decryptResponse {sealWith : SessionKey → Nonce → Bytes → Option Bytes}
    {p : Pairing} {s : System} (h : Paired p s) {message : Bytes} {response : DeviceResponse}
    (hok : letI := idealAead sealWith s.log
      (s.reader.decryptResponse message).1 = .ok response) :
    letI := idealAead sealWith s.log
    ∃ m, s.responses.next? = some m ∧
      s.reader.opened (carriedCiphertext message) = some m.plaintext ∧
      fromSlice DeviceResponse m.plaintext = .ok response := by
  let _ := idealAead sealWith s.log
  unfold Reader.SessionManager.decryptResponse at hok
  unfold carriedCiphertext
  cases hdata : fromSlice SessionData message with
  | error e =>
    rw [hdata] at hok
    cases hok
  | ok sessionData =>
    obtain ⟨data, status⟩ := sessionData
    simp only [hdata] at hok
    cases data with
    | none => cases hok
    | some data =>
      simp only at hok
      cases hdec : decryptDeviceData s.reader.skDevice data.bytes s.reader.deviceMessageCounter with
      | mk plaintext count =>
        rw [hdec] at hok
        cases plaintext with
        | none => cases hok
        | some plaintext =>
          have hopen : (decrypt s.reader.skDevice data.bytes s.reader.deviceMessageCounter
              false).1 = some plaintext := congrArg Prod.fst hdec
          have hread := mapError_eq_ok hok
          cases h.inStep.responses.decrypt_eq sealWith h.responses h.sending.logOf_responses
              data.bytes with
          | inr hnone =>
            rw [hnone.2] at hopen
            cases hopen
          | inl hnext =>
            obtain ⟨m, hm, -, hplain⟩ := hnext
            have hopened : s.reader.opened (some data.bytes) = some plaintext := hopen
            rw [hopen] at hplain
            cases hplain
            exact ⟨m, hm, hopened, hread⟩

theorem Paired.responsesAgree {sealWith : SessionKey → Nonce → Bytes → Option Bytes}
    {p : Pairing} {s : System} (h : Paired p s) {ops : List Device.Operation} {calls : List ℕ}
    (hordered : calls.Pairwise (· < ·))
    (hsent : List.Forall₂ (fun n (m : Sealing) => Device.AnswersCall p.device ops n m.plaintext)
      calls s.responses.sent) :
    letI := idealAead sealWith s.log
    ResponsesAgree p.device ops calls s := by
  let _ := idealAead sealWith s.log
  have hlen : s.responsesOpened.length = s.responses.received.length := by
    rw [h.inStep.responses.opened, List.length_map]
  refine ⟨hordered, hsent, ?_, ?_, ?_⟩
  · have hsplit : s.responses.sent.take s.responses.received.length = s.responses.received :=
      (List.prefix_iff_eq_take.mp h.inStep.responses.fifo).symm
    have htake := List.forall₂_take s.responses.received.length hsent
    rw [hsplit] at htake
    rw [hlen, h.inStep.responses.opened, List.forall₂_map_right_iff]
    exact htake
  · rw [h.inStep.responses.count, hlen]
  · intro message response hok
    obtain ⟨m, hm, hopened, hread⟩ := h.decryptResponse hok
    obtain ⟨hi, hget⟩ := List.getElem?_eq_some_iff.mp hm
    have hi' : s.responses.received.length < calls.length := hsent.length_eq ▸ hi
    have hanswers := hsent.get hi' hi
    rw [List.get_eq_getElem, List.get_eq_getElem, hget] at hanswers
    rw [hlen]
    exact ⟨_, _, List.getElem?_eq_getElem hi', hopened, hanswers, hread⟩

/-- a message that arrives leaves what the device is doing -/
theorem Paired.hears_state {sealWith : SessionKey → Nonce → Bytes → Option Bytes} {p : Pairing}
    {s : System} (h : Paired p s) {nss : List RequestNamespaces}
    (hseals : List.Forall₂ SealsRequest nss s.requests.sent) {op : Device.Operation}
    (hop : op.Hears) {e : Effect Device.SessionManager}
    (he : letI := idealAead sealWith s.log
      s.device.step op = some e) : e.sm.state = s.device.state := by
  let _ := idealAead sealWith s.log
  have hagree : RequestsAgree nss s := h.requestsAgree hseals
  cases op with
  | handleDecodedRequest request =>
    cases he
    exact (hagree.decoded request).state
  | handleRequest request =>
    cases he
    exact (hagree.next request).state
  | _ => cases hop

/-- the two sessions with their records -/
structure Recorded (p : Pairing) (as : List Action) (s : System) : Prop where
  paired : Paired p s
  asked : ∃ nss, Asked as nss s.requests.sent
  records : ∃ calls, Device.Records p.device (deviceOperations as) calls s.device s.responses.sent

theorem Recorded.start {p : Pairing} (hidle : p.device.Idle) :
    Recorded p [] (start p.reader p.device) where
  paired := .start p
  asked := ⟨[], .slnil, .nil⟩
  records := ⟨[], .start hidle⟩

/-- **An action keeps the records of both sessions.** -/
theorem Recorded.step {sealWith : SessionKey → Nonce → Bytes → Option Bytes} {p : Pairing}
    {as : List Action} {s t : System} {a : Action} (h : Recorded p as s)
    (hst : s.step (idealAead sealWith) a = some t) : Recorded p (as ++ [a]) t := by
  obtain ⟨hpaired, ⟨nss, hasked⟩, calls, hrecords⟩ := h
  refine ⟨hpaired.step hst, hasked.step hst, ?_⟩
  let _ := idealAead sealWith s.log
  cases a with
  | reader op =>
    obtain ⟨e, he, rfl⟩ := Option.map_eq_some_iff.mp hst
    have hops : deviceOperations (as ++ [.reader op]) = deviceOperations as := by
      have hnone : (Action.reader op).operation = none := rfl
      rw [deviceOperations, List.filterMap_append, List.filterMap_cons_none hnone,
        List.filterMap_nil, List.append_nil]
      rfl
    have hsent : (s.readerEffect e).responses.sent = s.responses.sent :=
      Channel.deliverOption_sent _ _ _
    rw [hops, hsent]
    exact ⟨calls, hrecords⟩
  | device op =>
    obtain ⟨e, he, rfl⟩ := Option.map_eq_some_iff.mp hst
    have hops : deviceOperations (as ++ [.device op]) = deviceOperations as ++ [op] := by
      have hsome : (Action.device op).operation = some op := rfl
      rw [deviceOperations, List.filterMap_append, List.filterMap_cons_some hsome,
        List.filterMap_nil]
      rfl
    have hsent : (s.deviceEffect e).responses.sent = s.responses.sent ++ e.sealing.toList :=
      Channel.sendOption_sent _ _
    rw [hops, hsent]
    exact hrecords.step he fun hop => hpaired.hears_state hasked.seals hop he

theorem recorded (sealWith : SessionKey → Nonce → Bytes → Option Bytes) {p : Pairing}
    (hidle : p.device.Idle) :
    Run.Recorded (System.step (idealAead sealWith)) (System.start p.reader p.device)
      (Recorded p) :=
  Run.Recorded.of_invariant (.start hidle) fun _ _ _ _ h hst => h.step hst

/-- **Every response answers one call.**  In every run of two sessions that share their keys, with
the ideal AEAD and whatever bytes arrive, the responses that the device encrypted answer calls of
`prepare_response`, each another one and in order: each carries what its call prepared, signed with
the signatures that were submitted after it and before the next.  The reader opened these responses
from the first on, and opens the next one or nothing. -/
theorem responses_agree (sealWith : SessionKey → Nonce → Bytes → Option Bytes) {p : Pairing}
    (hidle : p.device.Idle) :
    Run.Recorded (System.step (idealAead sealWith)) (System.start p.reader p.device) fun as s =>
      ∃ calls : List ℕ,
        letI := idealAead sealWith s.log
        ResponsesAgree p.device (deviceOperations as) calls s := by
  refine (recorded sealWith hidle).mono fun as s h => ?_
  obtain ⟨calls, hrecords⟩ := h.records
  exact ⟨calls, h.paired.responsesAgree hrecords.ordered hrecords.answers⟩

/-! ## what the reader handles -/

/-- a message that is handled: nothing is learnt from it, or it decrypts to a response whose mDL is
validated -/
theorem handleResponse_cases [AesGcm] {sm : Reader.SessionManager} {message : Bytes}
    {handled : ResponseAuthenticationOutcome × Reader.SessionManager}
    (h : sm.handleResponse message = some handled) :
    (∃ kind e, handled.1 = .error kind e) ∨
      ∃ response document x5chain namespaces, (sm.decryptResponse message).1 = .ok response ∧
        Reader.parse response = some (.ok (document, x5chain, namespaces)) ∧
        handled.1 = validateResponse (sm.decryptResponse message).2.sessionTranscript
          (sm.decryptResponse message).2.trustAnchorRegistry x5chain document namespaces := by
  unfold Reader.SessionManager.handleResponse at h
  generalize sm.decryptResponse message = decrypted at h ⊢
  obtain ⟨result, sm'⟩ := decrypted
  cases result with
  | error e =>
    cases h
    exact .inl ⟨_, _, rfl⟩
  | ok response =>
    simp only at h
    cases hparse : Reader.parse response with
    | none =>
      rw [hparse] at h
      cases h
    | some parsed =>
      cases parsed with
      | error e =>
        rw [hparse] at h
        cases h
        exact .inl ⟨_, _, rfl⟩
      | ok parsed =>
        obtain ⟨document, x5chain, namespaces⟩ := parsed
        rw [hparse] at h
        cases h
        exact .inr ⟨response, document, x5chain, namespaces, rfl, hparse, rfl⟩

/-- the document that is taken from a response is an mDL in it -/
theorem parse_mem {response : DeviceResponse} {document : DeviceResponse.Document}
    {x5chain : X5Chain} {namespaces : BTreeMap String Json}
    (h : Reader.parse response = some (.ok (document, x5chain, namespaces))) :
    document ∈ response.documentList ∧ document.docType = Reader.MDL_DOC_TYPE ∧
      Reader.ValuesOf document namespaces := by
  obtain ⟨hdoc, -, hnamespaces⟩ := Reader.parse_ok h
  obtain ⟨documents, hdocuments, hmem, htype⟩ := Reader.getDocument_ok hdoc
  refine ⟨?_, htype, Reader.parseNamespaces_ok hdoc hnamespaces⟩
  rw [DeviceResponse.documentList, hdocuments]
  exact hmem

/-- **What the reader validates is an answer of its session**: nothing is learnt from a message, or
its plaintext is the answer to a call of `prepare_response`, and an mDL of this answer is
validated. -/
theorem Recorded.handled {sealWith : SessionKey → Nonce → Bytes → Option Bytes} {p : Pairing}
    {as : List Action} {s : System} (h : Recorded p as s) {message : Bytes}
    {handled : ResponseAuthenticationOutcome × Reader.SessionManager}
    (hhandled : letI := idealAead sealWith s.log
      s.reader.handleResponse message = some handled) :
    letI := idealAead sealWith s.log
    (∃ kind e, handled.1 = .error kind e) ∨ ∃ n plaintext response document x5chain namespaces,
      s.reader.opened (carriedCiphertext message) = some plaintext ∧
      Device.AnswersCall p.device (deviceOperations as) n plaintext ∧
      fromSlice DeviceResponse plaintext = .ok response ∧
      Reader.parse response = some (.ok (document, x5chain, namespaces)) ∧
      document ∈ response.documentList ∧ document.docType = Reader.MDL_DOC_TYPE ∧
      handled.1 = validateResponse (s.reader.decryptResponse message).2.sessionTranscript
        (s.reader.decryptResponse message).2.trustAnchorRegistry x5chain document namespaces := by
  let _ := idealAead sealWith s.log
  obtain ⟨calls, hrecords⟩ := h.records
  have hagree : ResponsesAgree p.device (deviceOperations as) calls s :=
    h.paired.responsesAgree hrecords.ordered hrecords.answers
  refine (handleResponse_cases hhandled).imp_right fun hread => ?_
  obtain ⟨response, document, x5chain, namespaces, hdecrypt, hparse, hvalid⟩ := hread
  obtain ⟨hdocument, htype, -⟩ := parse_mem hparse
  obtain ⟨n, plaintext, -, hopened, hanswers, hslice⟩ := hagree.next message response hdecrypt
  exact ⟨n, plaintext, response, document, x5chain, namespaces, hopened, hanswers, hslice, hparse,
    hdocument, htype, hvalid⟩

end

section
open scoped Reference

namespace Sample

def sealWith (_ : SessionKey) (_ : Nonce) (plaintext : Bytes) : Option Bytes := some plaintext

/-- a document that its issuer signed -/
def issuedDocument : Device.Document where
  id := ⟨List.replicate 16 1, Device.Sample.length_id⟩
  issuerAuth := Reader.Sample.issuerAuth
  mso := Reader.Sample.mso
  namespaces := NonEmptyMap.new Reader.CORE_NAMESPACE
    (NonEmptyMap.new "family_name" Device.Sample.readableItem)

/-- a reader that trusts the issuer -/
def reader : Reader.SessionManager :=
  let sm := Device.Sample.readableSession
  ⟨sm.sessionTranscript, sm.skDevice, 0, sm.skReader, 0, Reader.Sample.trustedIssuers⟩

/-- the sessions of a holder of this document and of the reader -/
def holding (document : Device.Document) : Pairing where
  reader := reader
  device :=
    { Device.Sample.readableSession with
      documents := NonEmptyMap.new Reader.MDL_DOC_TYPE document }
  skReader := rfl
  skDevice := rfl
  readerFresh := ⟨rfl, rfl⟩
  deviceFresh := ⟨rfl, rfl⟩

def pairing : Pairing := holding issuedDocument

theorem holding_idle (document : Device.Document) : (holding document).device.Idle :=
  fun p h => by cases h

/-- a response is prepared and signed -/
def answering : List Action :=
  [.device (.prepareResponse Device.Sample.requests Device.Sample.permitted),
    .device (.submitNextSignature Reader.Sample.deviceSignature)]

/-- what a run of these actions leaves between the two sessions -/
def after (p : Pairing) (as : List Action) : Option System :=
  Run.after (System.step (idealAead sealWith)) (System.start p.reader p.device) as

/-- the message that the holder's session answers with -/
def answer : Bytes :=
  ((after pairing answering).bind fun s => s.device.retrieveResponse.1).getD []

/-- what the reader makes of the answer -/
def outcomeIn (p : Pairing) : Option ResponseAuthenticationOutcome := do
  let s ← after p answering
  let message ← s.device.retrieveResponse.1
  let _ := idealAead sealWith s.log
  let handled ← s.reader.handleResponse message
  some handled.1

theorem exists_handled {p : Pairing} {check : ResponseAuthenticationOutcome → Bool}
    (h : (outcomeIn p).any check = true) :
    ∃ s, letI := idealAead sealWith s.log
      ∃ message handled, after p answering = some s ∧
        s.reader.handleResponse message = some handled ∧ check handled.1 = true := by
  obtain ⟨outcome, houtcome, hcheck⟩ := Option.any_eq_true _ _ |>.mp h
  obtain ⟨s, hs, houtcome⟩ := Option.bind_eq_some_iff.mp houtcome
  obtain ⟨message, -, houtcome⟩ := Option.bind_eq_some_iff.mp houtcome
  let _ := idealAead sealWith s.log
  obtain ⟨handled, hhandled, houtcome⟩ := Option.bind_eq_some_iff.mp houtcome
  cases houtcome
  exact ⟨s, message, handled, hs, hhandled, hcheck⟩

end Sample

/-- A response is prepared, signed, sent and opened. -/
theorem responses_agree_sample :
    let as := Sample.answering ++ [.reader (.handleResponse Sample.answer)]
    ∃ s, Sample.after Sample.pairing as = some s ∧
      ∃ calls, calls.length = 1 ∧ s.responsesOpened.length = 1 ∧
        letI := idealAead Sample.sealWith s.log
        ResponsesAgree Sample.pairing.device (deviceOperations as) calls s := by
  intro as
  have hsome : ((Sample.after Sample.pairing as).any fun s =>
      s.responses.sent.length == 1 && s.responsesOpened.length == 1) = true := by
    decide +kernel
  obtain ⟨s, hs, hlength⟩ := Option.any_eq_true _ _ |>.mp hsome
  obtain ⟨hsent, hopened⟩ := Bool.and_eq_true _ _ |>.mp hlength
  let _ := idealAead Sample.sealWith s.log
  obtain ⟨calls, hagree⟩ := responses_agree Sample.sealWith (p := Sample.pairing)
    (Sample.holding_idle _) as s hs
  exact ⟨s, hs, calls, hagree.sent.length_eq.trans (eq_of_beq hsent), eq_of_beq hopened, hagree⟩

end

end System

end Isomdl
