import Isomdl.Presentation.Reader
import Isomdl.Presentation.Signing

/-!
# The operations of the two sessions

Every call that a party can make on its session is an `Operation`, and `step` says what the call
leaves: the session after it, the ciphertext it made, the ciphertext it was given, what that opened
to, and the response it handed out.  A call that panics has no step.

* `Outgoing`, `Incoming`   what an encryption and a decryption do to a counter;
* `Device.SessionManager.step_spec`, `Reader.SessionManager.step_spec`
                           every operation of either side is covered by the two.
-/

set_option linter.unusedSectionVars false

namespace Isomdl

open Cbor

/-- what an operation leaves -/
structure Effect (Session : Type) where
  sm : Session
  sealing : Option Sealing
  incoming : Option Bytes
  opened : Option Bytes
  retrieved : Option Bytes

/-- an operation that exchanges nothing -/
def Effect.silent {Session : Type} (sm : Session) : Effect Session := ⟨sm, none, none, none, none⟩

/-- the ciphertext in a decoded message -/
def SessionData.ciphertext (s : SessionData) : Option Bytes := s.data.map (·.bytes)

/-- the ciphertext that an encoded message carries -/
def carriedCiphertext [Ciborium] (message : Bytes) : Option Bytes :=
  match fromSlice SessionData message with
  | .ok s => s.ciphertext
  | .error _ => none

/-! ## counters -/

section
variable [AesGcm]

/-- the counter moves by one with a ciphertext, which is sealed under the new count, and stays
without one -/
def Outgoing (key : SessionKey) (reader : Bool) (before after : UInt32) : Option Sealing → Prop
  | none => after = before
  | some s => after.toNat = before.toNat + 1 ∧ s.key = key ∧
      s.nonce = initializationVector after reader ∧
      AesGcm.encryptWithBackend s.key s.nonce s.plaintext = some s.ciphertext

/-- the counter and the plaintext after the arrival of a ciphertext -/
def Incoming (key : SessionKey) (reader : Bool) (before after : UInt32) (opened : Option Bytes) :
    Option Bytes → Prop
  | none => after = before ∧ opened = none
  | some c => (opened, after) = decrypt key c before reader

theorem encrypt_outgoing (key : SessionKey) (plaintext : Bytes) (count : UInt32) (reader : Bool) :
    Outgoing key reader count (encrypt key plaintext count reader).2
      (encrypt key plaintext count reader).1 := by
  cases encrypt_cases key plaintext count reader with
  | inl h =>
    rw [h]
    exact rfl
  | inr h =>
    obtain ⟨next, ciphertext, hnext, hseal, h⟩ := h
    rw [h]
    exact ⟨hnext, rfl, rfl, hseal⟩

/-- **A counter moves by the number of ciphertexts that were made.** -/
theorem Outgoing.toNat {key : SessionKey} {reader : Bool} {before after : UInt32}
    {sealing : Option Sealing} (h : Outgoing key reader before after sealing) :
    after.toNat = before.toNat + sealing.toList.length := by
  cases sealing with
  | none =>
    have heq : after = before := h
    rw [heq]
    rfl
  | some s => exact h.1

/-- **A counter moves by the number of plaintexts that were opened.** -/
theorem Incoming.toNat {key : SessionKey} {reader : Bool} {before after : UInt32}
    {opened incoming : Option Bytes} (h : Incoming key reader before after opened incoming) :
    after.toNat = before.toNat + opened.toList.length := by
  cases incoming with
  | none =>
    obtain ⟨hafter, hopened⟩ := h
    rw [hafter, hopened]
    rfl
  | some c =>
    have heq : (opened, after) = decrypt key c before reader := h
    cases decrypt_cases key c before reader with
    | inl hnone =>
      rw [hnone] at heq
      cases heq
      rfl
    | inr hsome =>
      obtain ⟨count, plaintext, hcount, -, hsome⟩ := hsome
      rw [hsome] at heq
      cases heq
      exact hcount

end

/-! ## the device -/

namespace Device

inductive Operation where
  | handleDecodedRequest (request : SessionData)
  | handleRequest (request : Bytes)
  | prepareResponse (requests : RequestedItems) (permitted : PermittedItems)
  | getNextSignaturePayload
  | submitNextSignature (signature : Bytes)
  | responseReady
  | retrieveResponse

namespace SessionManager

section
variable [Ciborium] [Coset] [X509Cert] [P256] [Sha2] [Clock] [AesGcm]

/-- the plaintext of a ciphertext that arrives -/
def opened (sm : SessionManager) (ciphertext : Option Bytes) : Option Bytes :=
  ciphertext.bind fun c => (decryptReaderData sm.skReader c sm.readerMessageCounter).1

def step (sm : SessionManager) : Operation → Option (Effect SessionManager)
  | .handleDecodedRequest request =>
    some ⟨(sm.handleDecodedRequest request).2, none, request.ciphertext,
      sm.opened request.ciphertext, none⟩
  | .handleRequest request =>
    some ⟨(sm.handleRequest request).2, none, carriedCiphertext request,
      sm.opened (carriedCiphertext request), none⟩
  | .prepareResponse requests permitted => some (.silent (sm.prepareResponse requests permitted))
  | .getNextSignaturePayload => some (.silent sm)
  | .submitNextSignature signature =>
    (sm.submitNextSignature signature).map fun s => ⟨s.sm, s.sealing, none, none, none⟩
  | .responseReady => some (.silent sm)
  | .retrieveResponse => some ⟨sm.retrieveResponse.2, none, none, none, sm.retrieveResponse.1⟩

/-! ### receiving -/

/-- what the arrival of a ciphertext leaves of the session, up to the plaintext's parsing -/
structure Receives (sm sm' : SessionManager) (ciphertext : Option Bytes) : Prop where
  skReader : sm'.skReader = sm.skReader
  skDevice : sm'.skDevice = sm.skDevice
  deviceMessageCounter : sm'.deviceMessageCounter = sm.deviceMessageCounter
  incoming : Incoming sm.skReader true sm.readerMessageCounter sm'.readerMessageCounter
    (sm.opened ciphertext) ciphertext
  state : sm'.state = sm.state ∨
    ∃ plaintext e, sm.opened ciphertext = some plaintext ∧ parseRequest plaintext = .error e ∧
      sm'.state = .Signing e

/-- **A decoded message moves the counter when it opens, and the state when what it opens to does
not parse.** -/
theorem handleDecodedRequest_receives (sm : SessionManager) (request : SessionData) :
    Receives sm (sm.handleDecodedRequest request).2 request.ciphertext := by
  obtain ⟨data, status⟩ := request
  cases data with
  | none => exact ⟨rfl, rfl, rfl, ⟨rfl, rfl⟩, .inl rfl⟩
  | some data =>
    cases hdec : decryptReaderData sm.skReader data.bytes sm.readerMessageCounter with
    | mk plaintext count =>
      have hopened : sm.opened (some data.bytes) = plaintext := by
        show (decryptReaderData sm.skReader data.bytes sm.readerMessageCounter).1 = plaintext
        rw [hdec]
      have hin : (plaintext, count) = decrypt sm.skReader data.bytes sm.readerMessageCounter true :=
        hdec.symm
      unfold handleDecodedRequest
      simp only [hdec]
      show Receives sm _ (some data.bytes)
      cases plaintext with
      | none =>
        refine ⟨rfl, rfl, rfl, ?_, .inl rfl⟩
        rw [hopened]
        exact hin
      | some plaintext =>
        cases hparse : parseRequest plaintext with
        | error e =>
          simp only [hparse]
          refine ⟨rfl, rfl, rfl, ?_, .inr ⟨plaintext, e, hopened, hparse, rfl⟩⟩
          rw [hopened]
          exact hin
        | ok request =>
          simp only [hparse]
          refine ⟨rfl, rfl, rfl, ?_, .inl rfl⟩
          rw [hopened]
          exact hin

theorem handleRequest_receives (sm : SessionManager) (request : Bytes) :
    Receives sm (sm.handleRequest request).2 (carriedCiphertext request) := by
  unfold handleRequest carriedCiphertext
  cases fromSlice SessionData request with
  | error e => exact ⟨rfl, rfl, rfl, ⟨rfl, rfl⟩, .inl rfl⟩
  | ok sessionData => exact handleDecodedRequest_receives sm sessionData

/-! ### responding -/

/-- what is ready to be handed out after a signature: with a ciphertext the message that carries
it, whose plaintext is a response, and without one nothing or a message with a status -/
def Answers (state : State) : Option Sealing → Prop
  | none => ∀ message, state = .ReadyToRespond message →
      toVec (⟨none, some .SessionEncryptionError⟩ : SessionData) = .ok message
  | some sealing => ∃ message response, state = .ReadyToRespond message ∧
      toVec (⟨some ⟨sealing.ciphertext⟩, none⟩ : SessionData) = .ok message ∧
      fromSlice DeviceResponse sealing.plaintext = .ok response

/-- what a signature leaves of a session that is signing -/
structure Responds (sm : SessionManager) (s : Submitted) : Prop where
  skReader : s.sm.skReader = sm.skReader
  skDevice : s.sm.skDevice = sm.skDevice
  readerMessageCounter : s.sm.readerMessageCounter = sm.readerMessageCounter
  outgoing : Outgoing sm.skDevice false sm.deviceMessageCounter s.sm.deviceMessageCounter s.sealing
  answers : Answers s.sm.state s.sealing

/-- the plaintext of a ciphertext is what was encrypted -/
theorem encrypt_plaintext {key : SessionKey} {plaintext : Bytes} {before after : UInt32}
    {reader : Bool} {sealing : Sealing}
    (h : encrypt key plaintext before reader = (some sealing, after)) :
    sealing.plaintext = plaintext := by
  cases encrypt_cases key plaintext before reader with
  | inl hnone =>
    rw [hnone] at h
    cases h
  | inr hsome =>
    obtain ⟨count, ciphertext, -, -, hsome⟩ := hsome
    rw [hsome] at h
    cases h
    rfl

theorem encryptResponse_responds {sm : SessionManager} {response : DeviceResponse} {s : Submitted}
    (hstate : sm.state = .AwaitingRequest) (h : sm.encryptResponse response = some s) :
    Responds sm s := by
  by_cases hcheck : ∃ bytes, SelfChecks response bytes
  · obtain ⟨bytes, hcheck⟩ := hcheck
    obtain ⟨message, hmessage, hok⟩ := encryptResponse_of_selfChecks sm hcheck
    obtain ⟨-, response2, hread, -⟩ := hcheck
    rw [hok] at h
    cases h
    refine ⟨rfl, rfl, rfl, encrypt_outgoing sm.skDevice bytes sm.deviceMessageCounter false, ?_⟩
    unfold encryptDeviceData at hmessage ⊢
    cases hresult : encrypt sm.skDevice bytes sm.deviceMessageCounter false with
    | mk sealing count =>
      rw [hresult] at hmessage
      cases sealing with
      | none =>
        intro message' heq
        cases heq
        exact hmessage
      | some sealing =>
        refine ⟨message, response2, rfl, hmessage, ?_⟩
        rw [encrypt_plaintext hresult]
        exact hread
  · cases encryptResponse_of_not_selfChecks sm hcheck with
    | inl hnone =>
      rw [hnone] at h
      cases h
    | inr herror =>
      obtain ⟨e, herror⟩ := herror
      rw [herror] at h
      cases h
      refine ⟨rfl, rfl, rfl, rfl, ?_⟩
      intro message heq
      rw [hstate] at heq
      cases heq

/-- **A signature does nothing, or goes to a session that is signing.** -/
theorem submitNextSignature_cases {sm : SessionManager} {signature : Bytes} {s : Submitted}
    (h : sm.submitNextSignature signature = some s) :
    s = ⟨.ok (), sm, none⟩ ∨ ((∃ p, sm.state = .Signing p) ∧ Responds sm s) := by
  unfold submitNextSignature at h
  cases hstate : sm.state with
  | Signing p =>
    right
    refine ⟨⟨p, rfl⟩, ?_⟩
    simp only [hstate] at h
    by_cases hc : (p.submitNextSignature signature).isComplete
    · rw [if_pos hc] at h
      obtain ⟨hr, hd, hcount, hout, hans⟩ := encryptResponse_responds rfl h
      exact ⟨hr, hd, hcount, hout, hans⟩
    · rw [if_neg hc] at h
      cases h
      refine ⟨rfl, rfl, rfl, rfl, ?_⟩
      intro message heq
      cases heq
  | AwaitingRequest =>
    simp only [hstate] at h
    cases h
    exact .inl rfl
  | ReadyToRespond r =>
    simp only [hstate] at h
    cases h
    exact .inl rfl

/-! ### every operation -/

/-- the keys stay, and the counters move as `Outgoing` and `Incoming` say -/
structure StepSpec (sm : SessionManager) (e : Effect SessionManager) : Prop where
  skReader : e.sm.skReader = sm.skReader
  skDevice : e.sm.skDevice = sm.skDevice
  outgoing : Outgoing sm.skDevice false sm.deviceMessageCounter e.sm.deviceMessageCounter e.sealing
  incoming : Incoming sm.skReader true sm.readerMessageCounter e.sm.readerMessageCounter e.opened
    e.incoming

/-- **Every operation of the device, in terms of its keys and counters.** -/
theorem step_spec {sm : SessionManager} {op : Operation} {e : Effect SessionManager}
    (h : sm.step op = some e) : StepSpec sm e := by
  cases op with
  | handleDecodedRequest request =>
    cases h
    have hrec := handleDecodedRequest_receives sm request
    exact ⟨hrec.skReader, hrec.skDevice, hrec.deviceMessageCounter, hrec.incoming⟩
  | handleRequest request =>
    cases h
    have hrec := handleRequest_receives sm request
    exact ⟨hrec.skReader, hrec.skDevice, hrec.deviceMessageCounter, hrec.incoming⟩
  | prepareResponse requests permitted =>
    cases h
    exact ⟨rfl, rfl, rfl, ⟨rfl, rfl⟩⟩
  | getNextSignaturePayload =>
    cases h
    exact ⟨rfl, rfl, rfl, ⟨rfl, rfl⟩⟩
  | submitNextSignature signature =>
    obtain ⟨s, hs, rfl⟩ := Option.map_eq_some_iff.mp h
    cases submitNextSignature_cases hs with
    | inl hs =>
      rw [hs]
      exact ⟨rfl, rfl, rfl, ⟨rfl, rfl⟩⟩
    | inr hs =>
      obtain ⟨-, hres⟩ := hs
      exact ⟨hres.skReader, hres.skDevice, hres.outgoing, ⟨hres.readerMessageCounter, rfl⟩⟩
  | responseReady =>
    cases h
    exact ⟨rfl, rfl, rfl, ⟨rfl, rfl⟩⟩
  | retrieveResponse =>
    cases h
    unfold retrieveResponse
    cases sm.state <;> exact ⟨rfl, rfl, rfl, ⟨rfl, rfl⟩⟩

end

end SessionManager

end Device

/-! ## the reader -/

namespace Reader

inductive Operation where
  | buildRequest (namespaces : RequestNamespaces)
  | newRequest (namespaces : RequestNamespaces)
  | decryptResponse (response : Bytes)
  | handleResponse (response : Bytes)

namespace SessionManager

section
variable [Ciborium] [Coset] [AesGcm]

/-- the plaintext of a ciphertext that arrives -/
def opened (sm : SessionManager) (ciphertext : Option Bytes) : Option Bytes :=
  ciphertext.bind fun c => (decryptDeviceData sm.skDevice c sm.deviceMessageCounter).1

variable [Rfc3339] [X509Cert] [P256] [Sha2] [Clock]

def step (sm : SessionManager) : Operation → Option (Effect SessionManager)
  | .buildRequest namespaces =>
    let built := sm.buildRequest namespaces
    some ⟨built.2, built.1.toOption, none, none, none⟩
  | .newRequest namespaces =>
    let requested := sm.newRequest namespaces
    some ⟨requested.sm, requested.sealing, none, none, none⟩
  | .decryptResponse response =>
    some ⟨(sm.decryptResponse response).2, none, carriedCiphertext response,
      sm.opened (carriedCiphertext response), none⟩
  | .handleResponse response =>
    (sm.handleResponse response).map fun handled =>
      ⟨handled.2, none, carriedCiphertext response, sm.opened (carriedCiphertext response), none⟩

/-- the keys stay, and the counters move as `Outgoing` and `Incoming` say -/
structure StepSpec (sm : SessionManager) (e : Effect SessionManager) : Prop where
  skReader : e.sm.skReader = sm.skReader
  skDevice : e.sm.skDevice = sm.skDevice
  outgoing : Outgoing sm.skReader true sm.readerMessageCounter e.sm.readerMessageCounter e.sealing
  incoming : Incoming sm.skDevice false sm.deviceMessageCounter e.sm.deviceMessageCounter e.opened
    e.incoming

/-! ### requesting -/

theorem buildRequest_spec (sm : SessionManager) (namespaces : RequestNamespaces) :
    StepSpec sm ⟨(sm.buildRequest namespaces).2, (sm.buildRequest namespaces).1.toOption, none, none,
      none⟩ := by
  unfold buildRequest
  cases deviceRequest namespaces with
  | error e => exact ⟨rfl, rfl, rfl, ⟨rfl, rfl⟩⟩
  | ok request =>
    cases hbytes : toVec request with
    | error e =>
      simp only [hbytes]
      exact ⟨rfl, rfl, rfl, ⟨rfl, rfl⟩⟩
    | ok bytes =>
      simp only [hbytes]
      have hout := encrypt_outgoing sm.skReader bytes sm.readerMessageCounter true
      unfold encryptReaderData
      generalize encrypt sm.skReader bytes sm.readerMessageCounter true = result at hout
      obtain ⟨sealing, count⟩ := result
      cases sealing <;> exact ⟨rfl, rfl, hout, ⟨rfl, rfl⟩⟩

theorem newRequest_spec (sm : SessionManager) (namespaces : RequestNamespaces) :
    StepSpec sm ⟨(sm.newRequest namespaces).sm, (sm.newRequest namespaces).sealing, none, none,
      none⟩ := by
  have hbuild := buildRequest_spec sm namespaces
  unfold newRequest
  generalize sm.buildRequest namespaces = built at hbuild
  obtain ⟨result, sm'⟩ := built
  cases result <;> exact ⟨hbuild.skReader, hbuild.skDevice, hbuild.outgoing, hbuild.incoming⟩

/-! ### receiving -/

/-- **A message moves the counter when it opens.** -/
theorem decryptResponse_spec (sm : SessionManager) (response : Bytes) :
    StepSpec sm ⟨(sm.decryptResponse response).2, none, carriedCiphertext response,
      sm.opened (carriedCiphertext response), none⟩ := by
  unfold decryptResponse carriedCiphertext
  cases fromSlice SessionData response with
  | error e => exact ⟨rfl, rfl, rfl, ⟨rfl, rfl⟩⟩
  | ok sessionData =>
    obtain ⟨data, status⟩ := sessionData
    cases data with
    | none => exact ⟨rfl, rfl, rfl, ⟨rfl, rfl⟩⟩
    | some data =>
      cases hdec : decryptDeviceData sm.skDevice data.bytes sm.deviceMessageCounter with
      | mk plaintext count =>
        have hopened : sm.opened (some data.bytes) = plaintext := by
          show (decryptDeviceData sm.skDevice data.bytes sm.deviceMessageCounter).1 = plaintext
          rw [hdec]
        have hin : (plaintext, count) =
            decrypt sm.skDevice data.bytes sm.deviceMessageCounter false := hdec.symm
        simp only [SessionData.ciphertext, Option.map_some, hdec, hopened]
        cases plaintext <;> exact ⟨rfl, rfl, rfl, hin⟩

theorem handleResponse_sm {sm : SessionManager} {response : Bytes}
    {handled : ResponseAuthenticationOutcome × SessionManager}
    (h : sm.handleResponse response = some handled) : handled.2 = (sm.decryptResponse response).2 := by
  unfold handleResponse at h
  generalize sm.decryptResponse response = decrypted at h
  obtain ⟨result, sm'⟩ := decrypted
  cases result with
  | error e =>
    cases h
    rfl
  | ok deviceResponse =>
    simp only at h
    split at h
    · cases h
    · cases h
      rfl
    · cases h
      rfl

/-- **Every operation of the reader, in terms of its keys and counters.** -/
theorem step_spec {sm : SessionManager} {op : Operation} {e : Effect SessionManager}
    (h : sm.step op = some e) : StepSpec sm e := by
  cases op with
  | buildRequest namespaces =>
    cases h
    exact buildRequest_spec sm namespaces
  | newRequest namespaces =>
    cases h
    exact newRequest_spec sm namespaces
  | decryptResponse response =>
    cases h
    exact decryptResponse_spec sm response
  | handleResponse response =>
    obtain ⟨handled, hhandled, rfl⟩ := Option.map_eq_some_iff.mp h
    rw [handleResponse_sm hhandled]
    exact decryptResponse_spec sm response

end

end SessionManager

end Reader

end Isomdl
