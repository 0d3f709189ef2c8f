import Isomdl.Presentation.SelfCheck
import Isomdl.Presentation.System
import Isomdl.Reference.X509

/-!
# Responses in the order they were encrypted

`Responder` is a device session with the ciphertexts it made and the responses it handed out.  The
reader decrypts responses by their number, so each response must reach it: the session must not
drop an encrypted response.  Two of its operations can, and `Keeps` says when they do not.

* `Responder.InOrder`        what a run of the device keeps, as long as it drops no response;
* `decryptsInOrder`          numbered ciphertexts decrypt at the reader, one after another;
* `responses_decrypt`        so the responses of such a run do.
-/

set_option linter.unusedSectionVars false

namespace Isomdl

open Cbor

section
variable [Ciborium]

/-- the messages that carry a ciphertext -/
def encryptedMessages (messages : List Bytes) : List Bytes :=
  messages.filter fun message => (carriedCiphertext message).isSome

/-- the message carries this ciphertext -/
def Carries (message : Bytes) (s : Sealing) : Prop := carriedCiphertext message = some s.ciphertext

theorem encryptedMessages_of_carries {message : Bytes} {s : Sealing} (h : Carries message s) :
    encryptedMessages [message] = [message] :=
  List.filter_cons_of_pos (by rw [h]; rfl)

end

/-- a message made of a ciphertext carries it -/
theorem carriedCiphertext_toVec [LawfulCiborium] {s : SessionData} {message : Bytes}
    (h : toVec s = .ok message) : carriedCiphertext message = s.ciphertext := by
  rw [carriedCiphertext, SessionData.fromSlice_toVec h]

namespace Reader.SessionManager

section
variable [Ciborium] [Coset] [AesGcm]

/-- the messages, delivered one after another, each decrypt to a response -/
def DecryptsInOrder (sm : SessionManager) : List Bytes → Prop
  | [] => True
  | message :: messages =>
    (∃ response, (sm.decryptResponse message).1 = .ok response) ∧
      DecryptsInOrder (sm.decryptResponse message).2 messages

end

end Reader.SessionManager

namespace Device

/-- a device session with the ciphertexts that it made and the responses that it handed out -/
structure Responder where
  sm : SessionManager
  sealed : List Sealing
  retrieved : List Bytes

section
variable [Ciborium]

/-- the encrypted response that is ready -/
def SessionManager.waiting (sm : SessionManager) : List Bytes :=
  match sm.state with
  | .ReadyToRespond message => encryptedMessages [message]
  | _ => []

theorem SessionManager.waiting_of_signing {sm : SessionManager} {p : PreparedDeviceResponse}
    (h : sm.state = .Signing p) : sm.waiting = [] := by
  rw [waiting, h]

theorem SessionManager.waiting_congr {sm sm' : SessionManager} (h : sm'.state = sm.state) :
    sm'.waiting = sm.waiting := by
  rw [waiting, waiting, h]

theorem SessionManager.waiting_retrieveResponse (sm : SessionManager) :
    sm.retrieveResponse.2.waiting = [] := by
  unfold retrieveResponse
  cases hstate : sm.state with
  | Signing p => exact waiting_of_signing hstate
  | ReadyToRespond message => rfl
  | AwaitingRequest =>
    dsimp only
    rw [waiting, hstate]

end

namespace Responder

def start (sm : SessionManager) : Responder := ⟨sm, [], []⟩

section
variable [Ciborium] [Coset] [X509Cert] [P256] [Sha2] [Clock] [AesGcm]

def effect (d : Responder) (e : Effect SessionManager) : Responder :=
  ⟨e.sm, d.sealed ++ e.sealing.toList, d.retrieved ++ e.retrieved.toList⟩

def step (d : Responder) (op : Operation) : Option Responder := (d.sm.step op).map d.effect

/-- a ciphertext that arrives while an encrypted response waits opens to a request that parses -/
def Parses (d : Responder) (ciphertext : Option Bytes) : Prop :=
  d.sm.waiting = [] ∨ ∀ plaintext, d.sm.opened ciphertext = some plaintext →
    ∃ request, parseRequest plaintext = .ok request

/-- the operation does not drop an encrypted response -/
def Keeps (d : Responder) : Operation → Prop
  | .handleDecodedRequest request => d.Parses request.ciphertext
  | .handleRequest request => d.Parses (carriedCiphertext request)
  | .prepareResponse _ _ => d.sm.waiting = []
  | _ => True

/-- the ciphertexts are numbered from one and their plaintexts are responses, and what was handed
out with what is ready carries them all, in order -/
structure InOrder (key : SessionKey) (d : Responder) : Prop where
  skDevice : d.sm.skDevice = key
  sends : System.Sends key false 0 d.sm.deviceMessageCounter d.sealed
  responses : ∀ s ∈ d.sealed, ∃ response, fromSlice DeviceResponse s.plaintext = .ok response
  encrypted : ∀ s ∈ d.sealed,
    AesGcm.encryptWithBackend s.key s.nonce s.plaintext = some s.ciphertext
  carried : List.Forall₂ Carries (encryptedMessages d.retrieved ++ d.sm.waiting) d.sealed

theorem InOrder.start {sm : SessionManager} (hcount : sm.deviceMessageCounter = 0)
    (hwaiting : sm.waiting = []) : InOrder sm.skDevice (start sm) where
  skDevice := rfl
  sends := by
    show System.Sends _ _ _ sm.deviceMessageCounter _
    rw [hcount]
    exact .start _ _ _
  responses s hs := by cases hs
  encrypted s hs := by cases hs
  carried := by
    show List.Forall₂ Carries ([] ++ sm.waiting) []
    rw [hwaiting]
    exact .nil

/-- an operation that makes no ciphertext and hands nothing out -/
theorem InOrder.silent {key : SessionKey} {d : Responder} (h : InOrder key d)
    {sm : SessionManager} (hkey : sm.skDevice = d.sm.skDevice)
    (hcount : sm.deviceMessageCounter = d.sm.deviceMessageCounter)
    (hwaiting : sm.waiting = d.sm.waiting) : InOrder key ⟨sm, d.sealed ++ [], d.retrieved ++ []⟩ := by
  rw [List.append_nil, List.append_nil]
  refine ⟨hkey.trans h.skDevice, ?_, h.responses, h.encrypted, ?_⟩
  · show System.Sends _ _ _ sm.deviceMessageCounter _
    rw [hcount]
    exact h.sends
  · show List.Forall₂ Carries (encryptedMessages d.retrieved ++ sm.waiting) d.sealed
    rw [hwaiting]
    exact h.carried

/-- a message that arrives -/
theorem InOrder.receives {key : SessionKey} {d : Responder} (h : InOrder key d)
    {sm : SessionManager} {ciphertext : Option Bytes}
    (hrec : SessionManager.Receives d.sm sm ciphertext) (hparses : d.Parses ciphertext) :
    InOrder key ⟨sm, d.sealed ++ [], d.retrieved ++ []⟩ := by
  refine h.silent hrec.skDevice hrec.deviceMessageCounter ?_
  cases hrec.state with
  | inl hsame => exact SessionManager.waiting_congr hsame
  | inr hparse =>
    obtain ⟨plaintext, e, hopened, hparse, hstate⟩ := hparse
    rw [SessionManager.waiting_of_signing hstate]
    cases hparses with
    | inl hnone => exact hnone.symm
    | inr hall =>
      obtain ⟨request, hrequest⟩ := hall plaintext hopened
      rw [hparse] at hrequest
      cases hrequest

end

section
variable [LawfulCiborium] [Coset] [X509Cert] [P256] [Sha2] [Clock] [AesGcm]

/-- a signature that goes to a session that is signing -/
theorem InOrder.responds {key : SessionKey} {d : Responder} (h : InOrder key d)
    {p : PreparedDeviceResponse} (hstate : d.sm.state = .Signing p) {s : SessionManager.Submitted}
    (hres : SessionManager.Responds d.sm s) :
    InOrder key ⟨s.sm, d.sealed ++ s.sealing.toList, d.retrieved ++ []⟩ := by
  obtain ⟨result, sm, sealing⟩ := s
  have hbefore := SessionManager.waiting_of_signing hstate
  have hans := hres.answers
  cases sealing with
  | none =>
    refine h.silent hres.skDevice hres.outgoing ?_
    rw [hbefore, SessionManager.waiting]
    split
    · next message hmessage =>
      have hcarried := carriedCiphertext_toVec (hans message hmessage)
      exact List.filter_cons_of_neg (by rw [hcarried]; exact Bool.false_ne_true)
    · rfl
  | some sealing =>
    obtain ⟨message, response, hmessage, hvec, hread⟩ := hans
    have hcarries : Carries message sealing := carriedCiphertext_toVec hvec
    have hafter : sm.waiting = [message] := by
      rw [SessionManager.waiting, hmessage]
      exact encryptedMessages_of_carries hcarries
    have hout := hres.outgoing
    rw [h.skDevice] at hout
    refine ⟨hres.skDevice.trans h.skDevice, h.sends.append hout, ?_, ?_, ?_⟩
    · intro s hs
      cases List.mem_append.mp hs with
      | inl hs => exact h.responses s hs
      | inr hs =>
        rw [List.mem_singleton.mp hs]
        exact ⟨response, hread⟩
    · intro s hs
      cases List.mem_append.mp hs with
      | inl hs => exact h.encrypted s hs
      | inr hs =>
        rw [List.mem_singleton.mp hs]
        exact hout.2.2.2
    · have hcarried := h.carried
      rw [hbefore, List.append_nil] at hcarried
      show List.Forall₂ Carries (encryptedMessages (d.retrieved ++ []) ++ sm.waiting) _
      rw [List.append_nil, hafter]
      exact List.rel_append hcarried (.cons hcarries .nil)

/-- the response that is ready is handed out -/
theorem InOrder.retrieve {key : SessionKey} {d : Responder} (h : InOrder key d) :
    InOrder key ⟨d.sm.retrieveResponse.2, d.sealed ++ [],
      d.retrieved ++ d.sm.retrieveResponse.1.toList⟩ := by
  unfold SessionManager.retrieveResponse
  cases hstate : d.sm.state with
  | ReadyToRespond message =>
    have hcarried := h.carried
    rw [SessionManager.waiting, hstate] at hcarried
    rw [List.append_nil]
    refine ⟨h.skDevice, h.sends, h.responses, h.encrypted, ?_⟩
    show List.Forall₂ Carries (encryptedMessages (d.retrieved ++ [message]) ++ []) d.sealed
    rw [List.append_nil, encryptedMessages, List.filter_append]
    exact hcarried
  | AwaitingRequest => exact h.silent rfl rfl rfl
  | Signing p => exact h.silent rfl rfl rfl

/-- **An operation that drops no response keeps them in order.** -/
theorem InOrder.step {key : SessionKey} {d d' : Responder} {op : Operation} (h : InOrder key d)
    (hkeeps : d.Keeps op) (hst : d.step op = some d') : InOrder key d' := by
  obtain ⟨e, he, rfl⟩ := Option.map_eq_some_iff.mp hst
  cases op with
  | handleDecodedRequest request =>
    cases he
    exact h.receives (SessionManager.handleDecodedRequest_receives d.sm request) hkeeps
  | handleRequest request =>
    cases he
    exact h.receives (SessionManager.handleRequest_receives d.sm request) hkeeps
  | prepareResponse requests permitted =>
    cases he
    have hwaiting : d.sm.waiting = [] := hkeeps
    exact h.silent rfl rfl hwaiting.symm
  | getNextSignaturePayload =>
    cases he
    exact h.silent rfl rfl rfl
  | submitNextSignature signature =>
    obtain ⟨s, hs, rfl⟩ := Option.map_eq_some_iff.mp he
    cases SessionManager.submitNextSignature_cases hs with
    | inl hs =>
      rw [hs]
      exact h.silent rfl rfl rfl
    | inr hs =>
      obtain ⟨⟨p, hstate⟩, hres⟩ := hs
      exact h.responds hstate hres
  | responseReady =>
    cases he
    exact h.silent rfl rfl rfl
  | retrieveResponse =>
    cases he
    exact h.retrieve

end

end Responder

end Device

/-! ## delivery -/

section
variable [Ciborium] [Coset] [LawfulAesGcm]

/-- the next response, at the reader whose counter it follows -/
theorem Reader.SessionManager.decryptResponse_of_sealedAt {reader : Reader.SessionManager}
    {message : Bytes} {s : Sealing}
    (hsealed : System.SealedAt reader.skDevice false reader.deviceMessageCounter 0 s)
    (henc : AesGcm.encryptWithBackend s.key s.nonce s.plaintext = some s.ciphertext)
    {response : DeviceResponse} (hread : fromSlice DeviceResponse s.plaintext = .ok response)
    (hcarries : Carries message s) :
    ∃ count : UInt32, count.toNat = reader.deviceMessageCounter.toNat + 1 ∧
      reader.decryptResponse message =
        (.ok response, { reader with deviceMessageCounter := count }) := by
  obtain ⟨hkey, count, hcount, hnonce⟩ := hsealed
  refine ⟨count, hcount, ?_⟩
  have hopen := LawfulAesGcm.decrypt_encrypt henc
  rw [hkey, hnonce] at hopen
  unfold Carries carriedCiphertext at hcarries
  unfold decryptResponse
  cases hdata : fromSlice SessionData message with
  | error e =>
    rw [hdata] at hcarries
    cases hcarries
  | ok sessionData =>
    simp only [hdata, SessionData.ciphertext] at hcarries
    obtain ⟨data, hsome, hbytes⟩ := Option.map_eq_some_iff.mp hcarries
    simp only [hsome, decryptDeviceData, hbytes, decrypt_of_count hcount, hopen, hread]
    rfl

/-- **Numbered ciphertexts decrypt at the reader, one after another.** -/
theorem decryptsInOrder {key : SessionKey} {messages : List Bytes} {sealings : List Sealing}
    (hcarried : List.Forall₂ Carries messages sealings)
    (henc : ∀ s ∈ sealings, AesGcm.encryptWithBackend s.key s.nonce s.plaintext = some s.ciphertext)
    (hread : ∀ s ∈ sealings, ∃ response, fromSlice DeviceResponse s.plaintext = .ok response)
    {reader : Reader.SessionManager} (hkey : reader.skDevice = key)
    (hnumbered : Numbered (System.SealedAt key false reader.deviceMessageCounter) sealings) :
    reader.DecryptsInOrder messages := by
  induction hcarried generalizing reader with
  | nil => exact trivial
  | cons hcarries hrest ih =>
    rename_i message s messages sealings
    have hsealed := hnumbered 0 s rfl
    rw [← hkey] at hsealed
    obtain ⟨response, hresponse⟩ := hread s List.mem_cons_self
    obtain ⟨count, hcount, hdec⟩ := Reader.SessionManager.decryptResponse_of_sealedAt hsealed
      (henc s List.mem_cons_self) hresponse hcarries
    refine ⟨⟨response, by rw [hdec]⟩, ?_⟩
    rw [hdec]
    refine ih (fun t ht => henc t (List.mem_cons_of_mem s ht))
      (fun t ht => hread t (List.mem_cons_of_mem s ht)) hkey ?_
    intro i t ht
    obtain ⟨htkey, next, hnext, hnonce⟩ := hnumbered (i + 1) t ht
    exact ⟨htkey, next, by rw [hnext]; show _ = count.toNat + i + 1; omega, hnonce⟩

end

namespace Device.Responder

section
variable [LawfulCiborium] [Coset] [X509Cert] [P256] [Sha2] [Clock] [LawfulAesGcm]

/-- the response carries a ciphertext that was made under the count of its position -/
def NumberedAt (key : SessionKey) (sealings : List Sealing) (i : ℕ) (message : Bytes) : Prop :=
  ∃ s ∈ sealings, Carries message s ∧ System.SealedAt key false 0 i s

/-- **The retrieved responses decrypt, as long as none was dropped.**  In a run of a fresh device
session in which no operation drops an encrypted response, the encrypted responses that were handed
out are numbered from one, and delivered in order they all decrypt at a reader that shares the
key. -/
theorem responses_decrypt {sm : SessionManager} (hcount : sm.deviceMessageCounter = 0)
    (hwaiting : sm.waiting = []) {ops : List Operation} {d : Responder}
    (hkeeps : Run.Along step Keeps (start sm) ops) (hrun : Run.after step (start sm) ops = some d) :
    (∀ reader : Reader.SessionManager, reader.skDevice = sm.skDevice →
        reader.deviceMessageCounter = 0 →
          reader.DecryptsInOrder (encryptedMessages d.retrieved)) ∧
      Numbered (NumberedAt sm.skDevice d.sealed) (encryptedMessages d.retrieved) := by
  have hinv : InOrder sm.skDevice d := Run.after_invariant_along
    (fun d op d' h hk hst => h.step hk hst) (.start hcount hwaiting) hkeeps hrun
  have hcarried := List.forall₂_take (encryptedMessages d.retrieved).length hinv.carried
  rw [List.take_left] at hcarried
  generalize hsealings : d.sealed.take (encryptedMessages d.retrieved).length = sealings at hcarried
  have hmem (s : Sealing) (hs : s ∈ sealings) : s ∈ d.sealed :=
    List.mem_of_mem_take (hsealings ▸ hs)
  have hnumbered : Numbered (System.SealedAt sm.skDevice false 0) sealings := by
    intro i s hs
    rw [← hsealings, List.getElem?_take] at hs
    split at hs
    · exact hinv.sends.numbered i s hs
    · cases hs
  refine ⟨?_, ?_⟩
  · intro reader hkey hzero
    refine decryptsInOrder hcarried (fun s hs => hinv.encrypted s (hmem s hs))
      (fun s hs => hinv.responses s (hmem s hs)) hkey ?_
    rw [hzero]
    exact hnumbered
  · intro i message hmessage
    obtain ⟨hi, hget⟩ := List.getElem?_eq_some_iff.mp hmessage
    have hi' : i < sealings.length := hcarried.length_eq ▸ hi
    have hcarries : Carries message sealings[i] := hget ▸ hcarried.get hi hi'
    exact ⟨sealings[i], hmem _ (List.getElem_mem hi'), hcarries,
      hnumbered i _ (List.getElem?_eq_getElem hi')⟩

end

section
open scoped Reference

/-- two requests that are answered, one after the other -/
def answeringTwice : List Operation :=
  [.prepareResponse Sample.requests Sample.permitted, .submitNextSignature [1], .retrieveResponse,
   .prepareResponse Sample.requests Sample.permitted, .submitNextSignature [2], .retrieveResponse]

theorem keeps_answeringTwice : Run.Along step Keeps (start Sample.readableSession) answeringTwice := by
  refine ⟨rfl, fun _ _ => ⟨trivial, fun _ _ => ⟨trivial, fun d hst => ⟨?_, fun _ _ => ⟨trivial,
    fun _ _ => ⟨trivial, fun _ _ => trivial⟩⟩⟩⟩⟩⟩
  cases hst
  exact SessionManager.waiting_retrieveResponse _

/-- Two responses with an mDL are handed out, and decrypt. -/
theorem responses_decrypt_sample :
    ∃ d, Run.after step (start Sample.readableSession) answeringTwice = some d ∧
      (encryptedMessages d.retrieved).length = 2 ∧
      (∀ s ∈ d.sealed, ∃ response, fromSlice DeviceResponse s.plaintext = .ok response ∧
        response.documentList.length = 1) ∧
      (∀ reader : Reader.SessionManager,
        reader.skDevice = Sample.readableSession.skDevice → reader.deviceMessageCounter = 0 →
          reader.DecryptsInOrder (encryptedMessages d.retrieved)) ∧
      Numbered (NumberedAt Sample.readableSession.skDevice d.sealed)
        (encryptedMessages d.retrieved) := by
  have hcheck : (Run.after step (start Sample.readableSession) answeringTwice).any (fun d =>
      (encryptedMessages d.retrieved).length == 2 && d.sealed.all fun s =>
        (fromSlice DeviceResponse s.plaintext).toOption.any fun response =>
          response.documentList.length == 1) = true := by
    decide +kernel
  obtain ⟨d, hd, hcheck⟩ := Option.any_eq_true _ _ |>.mp hcheck
  obtain ⟨hlength, hsealed⟩ := Bool.and_eq_true _ _ |>.mp hcheck
  refine ⟨d, hd, eq_of_beq hlength, fun s hs => ?_, responses_decrypt rfl rfl keeps_answeringTwice hd⟩
  obtain ⟨response, hresponse, hone⟩ := exists_ok_of_any (List.all_eq_true.mp hsealed s hs)
  exact ⟨response, hresponse, eq_of_beq hone⟩

/-- A response that a second one replaces leaves the next one unreadable. -/
theorem replaced_not_decrypted :
    ¬ ∀ (sm : SessionManager) (ops : List Operation) (d : Responder),
      sm.deviceMessageCounter = 0 → sm.waiting = [] → Run.after step (start sm) ops = some d →
      ∀ reader : Reader.SessionManager, reader.skDevice = sm.skDevice →
        reader.deviceMessageCounter = 0 → reader.DecryptsInOrder (encryptedMessages d.retrieved) := by
  intro h
  let ops : List Operation :=
    [.prepareResponse [] ∅, .submitNextSignature [], .prepareResponse [] ∅, .submitNextSignature [],
     .retrieveResponse]
  let sm := Sample.sessionManager ⟨[]⟩
  let reader : Reader.SessionManager :=
    ⟨sm.sessionTranscript, sm.skDevice, 0, sm.skReader, 0, ⟨[]⟩⟩
  have hrefused : (Run.after step (start sm) ops).any fun d =>
      (encryptedMessages d.retrieved).head?.any fun message =>
        !(reader.decryptResponse message).1.isOk := by
    decide +kernel
  obtain ⟨d, hd, hmessage⟩ := Option.any_eq_true _ _ |>.mp hrefused
  obtain ⟨message, hhead, hrefused⟩ := Option.any_eq_true _ _ |>.mp hmessage
  have hdecrypts := h sm ops d rfl rfl hd reader rfl rfl
  obtain ⟨messages, hretrieved⟩ := List.head?_eq_some_iff.mp hhead
  rw [hretrieved] at hdecrypts
  obtain ⟨⟨response, hok⟩, -⟩ := hdecrypts
  rw [hok] at hrefused
  cases hrefused

end

end Device.Responder

end Isomdl
