import Isomdl.Lib.Channel
import Isomdl.Lib.Run
import Isomdl.Presentation.Operations

/-!
# A reader and a device session that exchange messages

`System` is a reader session, a device session and what passed between them: in each direction a
channel of ciphertexts, and the plaintexts that the receiving session opened.  An action is any
operation of either session with any argument, so a message that arrives is any byte string.  The
AEAD may depend on the ciphertexts made so far; a fixed one does not, and `idealAead` opens exactly
those.

* `noncesUnique`      no nonce is used twice, and every counter is exact, for every AEAD;
* `robust`            with the ideal AEAD each session opens exactly the messages of the other,
                      each once and in order, whatever else arrives.
-/

set_option linter.unusedSectionVars false

namespace Isomdl

open Cbor

structure System where
  reader : Reader.SessionManager
  device : Device.SessionManager
  requests : Channel Sealing
  responses : Channel Sealing
  requestsOpened : List Bytes
  responsesOpened : List Bytes

namespace System

inductive Action where
  | reader (op : Reader.Operation)
  | device (op : Device.Operation)

/-- two sessions before their first message -/
def start (reader : Reader.SessionManager) (device : Device.SessionManager) : System :=
  ⟨reader, device, .empty, .empty, [], []⟩

/-- the ciphertexts that were made -/
def log (s : System) : List Sealing := s.requests.sent ++ s.responses.sent

def readerEffect (s : System) (e : Effect Reader.SessionManager) : System :=
  { s with
    reader := e.sm
    requests := s.requests.sendOption e.sealing
    responses := s.responses.deliverOption (·.ciphertext) e.incoming
    responsesOpened := s.responsesOpened ++ e.opened.toList }

def deviceEffect (s : System) (e : Effect Device.SessionManager) : System :=
  { s with
    device := e.sm
    responses := s.responses.sendOption e.sealing
    requests := s.requests.deliverOption (·.ciphertext) e.incoming
    requestsOpened := s.requestsOpened ++ e.opened.toList }

/-! ## one direction -/

/-- the ciphertext at position `i` of a direction: its key, and the nonce of the next count -/
def SealedAt (key : SessionKey) (reader : Bool) (base : UInt32) (i : ℕ) (s : Sealing) : Prop :=
  s.key = key ∧
    ∃ count : UInt32, count.toNat = base.toNat + i + 1 ∧ s.nonce = initializationVector count reader

/-- the sending session's counter, and the ciphertexts of its direction -/
structure Sends (key : SessionKey) (reader : Bool) (base now : UInt32) (sent : List Sealing) :
    Prop where
  count : now.toNat = base.toNat + sent.length
  numbered : Numbered (SealedAt key reader base) sent

section
variable {key : SessionKey} {reader : Bool} {base now after : UInt32} {sent : List Sealing}

theorem SealedAt.position {i j : ℕ} {m n : Sealing} (hm : SealedAt key reader base i m)
    (hn : SealedAt key reader base j n) (h : m.nonce = n.nonce) : i = j := by
  obtain ⟨-, c, hc, hmc⟩ := hm
  obtain ⟨-, d, hd, hnd⟩ := hn
  rw [hmc, hnd] at h
  have heq := (initializationVector_inj.mp h).1
  rw [heq] at hc
  omega

theorem Sends.start (key : SessionKey) (reader : Bool) (base : UInt32) :
    Sends key reader base base [] := ⟨rfl, .nil⟩

/-- **An encryption numbers the ciphertext that it adds.** -/
theorem Sends.append [AesGcm] (h : Sends key reader base now sent) {sealing : Option Sealing}
    (hout : Outgoing key reader now after sealing) :
    Sends key reader base after (sent ++ sealing.toList) := by
  refine ⟨?_, h.numbered.append_option ?_⟩
  · rw [hout.toNat, h.count, List.length_append]
    omega
  · intro m hm
    rw [hm] at hout
    obtain ⟨hcount, hkey, hnonce, -⟩ := hout
    exact ⟨hkey, after, by rw [hcount, h.count], hnonce⟩

theorem Sends.nonce (h : Sends key reader base now sent) {m : Sealing} (hm : m ∈ sent) :
    ∃ count, m.nonce = initializationVector count reader := by
  obtain ⟨i, -, -, count, -, hnonce⟩ := h.numbered.exists_of_mem hm
  exact ⟨count, hnonce⟩

theorem Sends.nodup (h : Sends key reader base now sent) : (sent.map (·.nonce)).Nodup :=
  h.numbered.nodup fun _ _ _ _ hm hn heq => hm.position hn heq

end

/-! ## actions -/

section
variable [Ciborium] [Coset] [Rfc3339] [X509Cert] [P256] [Sha2] [Clock]

def step (aead : List Sealing → AesGcm) (s : System) (a : Action) : Option System :=
  letI := aead s.log
  match a with
  | .reader op => (s.reader.step op).map s.readerEffect
  | .device op => (s.device.step op).map s.deviceEffect

/-! ## nonces -/

/-- both directions, relative to the sessions at the start -/
structure Sending (reader : Reader.SessionManager) (device : Device.SessionManager) (s : System) :
    Prop where
  readerKeys : s.reader.skReader = reader.skReader ∧ s.reader.skDevice = reader.skDevice
  deviceKeys : s.device.skReader = device.skReader ∧ s.device.skDevice = device.skDevice
  requests : Sends reader.skReader true reader.readerMessageCounter s.reader.readerMessageCounter
    s.requests.sent
  responses : Sends device.skDevice false device.deviceMessageCounter s.device.deviceMessageCounter
    s.responses.sent

theorem Sending.start (reader : Reader.SessionManager) (device : Device.SessionManager) :
    Sending reader device (start reader device) :=
  ⟨⟨rfl, rfl⟩, ⟨rfl, rfl⟩, .start _ _ _, .start _ _ _⟩

/-- **Every action keeps the keys and numbers the ciphertexts.** -/
theorem Sending.step {aead : List Sealing → AesGcm} {reader : Reader.SessionManager}
    {device : Device.SessionManager} {s t : System} {a : Action} (h : Sending reader device s)
    (hst : s.step aead a = some t) : Sending reader device t := by
  let _ := aead s.log
  cases a with
  | reader op =>
    obtain ⟨e, he, rfl⟩ := Option.map_eq_some_iff.mp hst
    have hspec := Reader.SessionManager.step_spec he
    have hout := hspec.outgoing
    rw [h.readerKeys.1] at hout
    refine ⟨⟨hspec.skReader.trans h.readerKeys.1, hspec.skDevice.trans h.readerKeys.2⟩,
      h.deviceKeys, ?_, ?_⟩
    · show Sends _ _ _ _ (s.requests.sendOption e.sealing).sent
      rw [Channel.sendOption_sent]
      exact h.requests.append hout
    · show Sends _ _ _ _ (s.responses.deliverOption _ e.incoming).sent
      rw [Channel.deliverOption_sent]
      exact h.responses
  | device op =>
    obtain ⟨e, he, rfl⟩ := Option.map_eq_some_iff.mp hst
    have hspec := Device.SessionManager.step_spec he
    have hout := hspec.outgoing
    rw [h.deviceKeys.2] at hout
    refine ⟨h.readerKeys,
      ⟨hspec.skReader.trans h.deviceKeys.1, hspec.skDevice.trans h.deviceKeys.2⟩, ?_, ?_⟩
    · show Sends _ _ _ _ (s.requests.deliverOption _ e.incoming).sent
      rw [Channel.deliverOption_sent]
      exact h.requests
    · show Sends _ _ _ _ (s.responses.sendOption e.sealing).sent
      rw [Channel.sendOption_sent]
      exact h.responses.append hout

theorem Sending.directions {reader : Reader.SessionManager} {device : Device.SessionManager}
    {s : System} (h : Sending reader device s) {m n : Sealing} (hm : m ∈ s.requests.sent)
    (hn : n ∈ s.responses.sent) : m.nonce ≠ n.nonce := by
  obtain ⟨c, hc⟩ := h.requests.nonce hm
  obtain ⟨d, hd⟩ := h.responses.nonce hn
  rw [hc, hd]
  intro heq
  cases (initializationVector_inj.mp heq).2

/-- no two ciphertexts under one key share a nonce, and the two directions share none -/
structure NoncesDistinct (s : System) : Prop where
  sameKey : s.log.Pairwise fun m n => m.key = n.key → m.nonce ≠ n.nonce
  directions : ∀ m ∈ s.requests.sent, ∀ n ∈ s.responses.sent, m.nonce ≠ n.nonce

theorem Sending.noncesDistinct {reader : Reader.SessionManager} {device : Device.SessionManager}
    {s : System} (h : Sending reader device s) : NoncesDistinct s := by
  refine ⟨?_, fun m hm n hn => h.directions hm hn⟩
  have hnodup : (s.log.map (·.nonce)).Nodup := by
    rw [log, List.map_append, List.nodup_append]
    refine ⟨h.requests.nodup, h.responses.nodup, ?_⟩
    intro a ha b hb
    obtain ⟨m, hm, rfl⟩ := List.mem_map.mp ha
    obtain ⟨n, hn, rfl⟩ := List.mem_map.mp hb
    exact h.directions hm hn
  rw [List.Nodup, List.pairwise_map] at hnodup
  refine hnodup.imp ?_
  intro m n hne _
  exact hne

/-- in the state `s` every operation of either session moves each counter by the number of
ciphertexts it makes or opens, so that one which makes or opens none leaves it; and no encryption
and no decryption succeeds at the last count -/
structure CountersExact [AesGcm] (s : System) : Prop where
  reader : ∀ op e, s.reader.step op = some e →
    e.sm.readerMessageCounter.toNat =
        s.reader.readerMessageCounter.toNat + e.sealing.toList.length ∧
      e.sm.deviceMessageCounter.toNat = s.reader.deviceMessageCounter.toNat + e.opened.toList.length
  device : ∀ op e, s.device.step op = some e →
    e.sm.deviceMessageCounter.toNat =
        s.device.deviceMessageCounter.toNat + e.sealing.toList.length ∧
      e.sm.readerMessageCounter.toNat = s.device.readerMessageCounter.toNat + e.opened.toList.length
  atMax : ∀ (key : SessionKey) (bytes : Bytes) (count : UInt32) (reader : Bool),
    count.toNat = 2 ^ 32 - 1 →
      encrypt key bytes count reader = (none, count) ∧ decrypt key bytes count reader = (none, count)
  failing : ∀ (key : SessionKey) (bytes : Bytes) (count : UInt32) (reader : Bool),
    ((encrypt key bytes count reader).1 = none → (encrypt key bytes count reader).2 = count) ∧
      ((decrypt key bytes count reader).1 = none → (decrypt key bytes count reader).2 = count)

theorem countersExact [AesGcm] (s : System) : CountersExact s where
  reader op e h :=
    ⟨(Reader.SessionManager.step_spec h).outgoing.toNat,
      (Reader.SessionManager.step_spec h).incoming.toNat⟩
  device op e h :=
    ⟨(Device.SessionManager.step_spec h).outgoing.toNat,
      (Device.SessionManager.step_spec h).incoming.toNat⟩
  atMax key bytes _ reader h := encrypt_decrypt_max h key bytes reader
  failing key bytes count reader := by
    refine ⟨?_, ?_⟩
    · intro hnone
      cases encrypt_cases key bytes count reader with
      | inl h => rw [h]
      | inr h =>
        obtain ⟨next, ciphertext, -, -, h⟩ := h
        rw [h] at hnone
        cases hnone
    · intro hnone
      cases decrypt_cases key bytes count reader with
      | inl h => rw [h]
      | inr h =>
        obtain ⟨next, plaintext, -, -, h⟩ := h
        rw [h] at hnone
        cases hnone

/-- **Nonces are unique over every run.**  Whatever the AEAD and whatever the sessions do, no two
ciphertexts made under one key share a nonce, no request shares one with a response, the counter of
a sender is its start plus the number of ciphertexts it made, so that it never wraps, and every
operation moves the counters exactly. -/
theorem noncesUnique (aead : List Sealing → AesGcm) (reader : Reader.SessionManager)
    (device : Device.SessionManager) :
    Run.Always (step aead) (start reader device) fun s =>
      NoncesDistinct s ∧
        s.reader.readerMessageCounter.toNat =
          reader.readerMessageCounter.toNat + s.requests.sent.length ∧
        s.device.deviceMessageCounter.toNat =
          device.deviceMessageCounter.toNat + s.responses.sent.length ∧
        @CountersExact _ _ _ _ _ _ _ (aead s.log) s := by
  have hinv : Run.Always (step aead) (start reader device) (Sending reader device) :=
    Run.Always.of_invariant (.start reader device) fun s a t h hst => h.step hst
  refine hinv.mono fun s h => ?_
  let _ := aead s.log
  exact ⟨h.noncesDistinct, h.requests.count, h.responses.count, countersExact s⟩

/-! ## the ideal AEAD -/

end

/-- opens exactly what was sealed under the same key and nonce -/
@[reducible] def idealAead (sealWith : SessionKey → Nonce → Bytes → Option Bytes)
    (log : List Sealing) : AesGcm where
  encryptWithBackend := sealWith
  decryptWithBackend key nonce ciphertext :=
    (log.find? fun s => s.key = key ∧ s.nonce = nonce ∧ s.ciphertext = ciphertext).map (·.plaintext)

section
variable {sealWith : SessionKey → Nonce → Bytes → Option Bytes} {log : List Sealing}

theorem idealAead_open {key : SessionKey} {nonce : Nonce} {ciphertext plaintext : Bytes}
    (h : (idealAead sealWith log).decryptWithBackend key nonce ciphertext = some plaintext) :
    ∃ m ∈ log, m.key = key ∧ m.nonce = nonce ∧ m.ciphertext = ciphertext ∧
      m.plaintext = plaintext := by
  obtain ⟨m, hm, hplain⟩ := Option.map_eq_some_iff.mp h
  have hprop := List.find?_some hm
  rw [decide_eq_true_eq] at hprop
  exact ⟨m, List.mem_of_find?_eq_some hm, hprop.1, hprop.2.1, hprop.2.2, hplain⟩

variable (sealWith) in
theorem idealAead_isSome {m : Sealing} (h : m ∈ log) :
    ∃ plaintext,
      (idealAead sealWith log).decryptWithBackend m.key m.nonce m.ciphertext = some plaintext := by
  show ∃ plaintext, (log.find? _).map _ = some plaintext
  cases hfind : log.find? fun s => s.key = m.key ∧ s.nonce = m.nonce ∧ s.ciphertext = m.ciphertext with
  | none =>
    have := List.find?_eq_none.mp hfind m h
    simp at this
  | some n => exact ⟨n.plaintext, rfl⟩

/-! ## one direction, with the ideal AEAD -/

/-- the receiving session's counter, and what it opened: the messages received, each once and in
the order they were sent -/
structure Delivered (ch : Channel Sealing) (opened : List Bytes) (now : UInt32) : Prop where
  count : now.toNat = ch.received.length
  fifo : ch.Fifo
  opened : opened = ch.received.map (·.plaintext)

theorem Delivered.sendOption {ch : Channel Sealing} {opened : List Bytes} {now : UInt32}
    (h : Delivered ch opened now) (o : Option Sealing) : Delivered (ch.sendOption o) opened now :=
  ⟨by rw [Channel.sendOption_received, h.count], h.fifo.sendOption o, by
    rw [Channel.sendOption_received, h.opened]⟩

variable {key : SessionKey} {reader : Bool} {now sent : UInt32} {ch : Channel Sealing}

/-- the log of both directions, seen from the one of `ch` -/
structure LogOf (log : List Sealing) (reader : Bool) (ch : Channel Sealing) : Prop where
  mem : ∀ m ∈ ch.sent, m ∈ log
  other : ∀ m ∈ log, m ∈ ch.sent ∨ ∃ count, m.nonce = initializationVector count (!reader)

/-- what opens under a count is the message at that position -/
theorem Sends.getElem?_of_open (hs : Sends key reader 0 sent ch.sent) (hlog : LogOf log reader ch)
    {count : UInt32} {ciphertext plaintext : Bytes}
    (h : (idealAead sealWith log).decryptWithBackend key (initializationVector count reader)
      ciphertext = some plaintext) {n : ℕ} (hn : count.toNat = n + 1) :
    ∃ m, ch.sent[n]? = some m ∧ m.ciphertext = ciphertext ∧ m.plaintext = plaintext := by
  obtain ⟨m, hm, -, hnonce, hcipher, hplain⟩ := idealAead_open h
  cases hlog.other m hm with
  | inl hmem =>
    obtain ⟨i, hi, -, c, hc, hiv⟩ := hs.numbered.exists_of_mem hmem
    rw [hnonce] at hiv
    have heq := (initializationVector_inj.mp hiv).1
    rw [← heq, hn] at hc
    have hpos : i = n := by
      have : (0 : UInt32).toNat = 0 := rfl
      omega
    rw [hpos] at hi
    exact ⟨m, hi, hcipher, hplain⟩
  | inr hother =>
    obtain ⟨c, hc⟩ := hother
    rw [hnonce] at hc
    have := (initializationVector_inj.mp hc).2
    cases reader <;> cases this

variable (sealWith) in
/-- **A ciphertext opens exactly when it is the next message of the other session.** -/
theorem Delivered.decrypt_eq (hs : Sends key reader 0 sent ch.sent) (hlog : LogOf log reader ch)
    {opened : List Bytes} (hd : Delivered ch opened now) (ciphertext : Bytes) :
    letI := idealAead sealWith log
    (∃ m, ch.next? = some m ∧ m.ciphertext = ciphertext ∧
        (decrypt key ciphertext now reader).1 = some m.plaintext) ∨
      (¬ ch.Next (·.ciphertext) ciphertext ∧ (decrypt key ciphertext now reader).1 = none) := by
  let _ := idealAead sealWith log
  by_cases hnext : ch.Next (·.ciphertext) ciphertext
  · left
    obtain ⟨m, hm, hcipher⟩ := hnext
    have hcipher : m.ciphertext = ciphertext := hcipher
    refine ⟨m, hm, hcipher, ?_⟩
    obtain ⟨hkey, count, hcount, hnonce⟩ := hs.numbered _ m hm
    have hcount' : count.toNat = now.toNat + 1 := by
      have : (0 : UInt32).toNat = 0 := rfl
      rw [hd.count]
      omega
    obtain ⟨plaintext, hopen⟩ := idealAead_isSome sealWith (hlog.mem m (List.mem_of_getElem? hm))
    rw [hkey, hnonce, hcipher] at hopen
    obtain ⟨m', hm', -, hplain⟩ := hs.getElem?_of_open hlog hopen (by rw [hcount', hd.count])
    have heq : m = m' := Option.some.inj (hm.symm.trans hm')
    rw [decrypt_of_count hcount', hopen, heq, hplain]
  · right
    refine ⟨hnext, ?_⟩
    cases decrypt_cases key ciphertext now reader with
    | inl h => rw [h]
    | inr h =>
      obtain ⟨count, plaintext, hcount, hopen, -⟩ := h
      obtain ⟨m, hm, hcipher, -⟩ := hs.getElem?_of_open hlog hopen (by rw [hcount, hd.count])
      exact absurd ⟨m, hm, hcipher⟩ hnext

/-- **What arrives keeps the receiving session in step with its channel.** -/
theorem Delivered.deliverOption (hs : Sends key reader 0 sent ch.sent) (hlog : LogOf log reader ch)
    {opened : List Bytes} (hd : Delivered ch opened now) {after : UInt32}
    {plaintext incoming : Option Bytes}
    (hin : letI := idealAead sealWith log
      Incoming key reader now after plaintext incoming) :
    Delivered (ch.deliverOption (·.ciphertext) incoming) (opened ++ plaintext.toList) after := by
  let _ := idealAead sealWith log
  have hcount := hin.toNat
  cases incoming with
  | none =>
    obtain ⟨hafter, hplain⟩ := hin
    rw [hafter, hplain]
    exact ⟨hd.count, hd.fifo, by rw [Option.toList_none, List.append_nil]; exact hd.opened⟩
  | some c =>
    have heq : plaintext = (decrypt key c now reader).1 := congrArg Prod.fst hin
    show Delivered (ch.deliver (·.ciphertext) c) _ _
    cases hd.decrypt_eq sealWith hs hlog c with
    | inl hnext =>
      obtain ⟨m, hm, hcipher, hopen⟩ := hnext
      rw [hopen] at heq
      rw [heq] at hcount
      rw [← hcipher, Channel.deliver_next (·.ciphertext) hm, heq]
      refine ⟨?_, hd.fifo.next? hm, ?_⟩
      · rw [hcount, hd.count, List.length_append]
        rfl
      · rw [hd.opened, List.map_append]
        rfl
    | inr hnone =>
      obtain ⟨hnext, hopen⟩ := hnone
      rw [hopen] at heq
      rw [heq] at hcount
      rw [Channel.deliver_of_not_next _ hnext, heq]
      refine ⟨?_, hd.fifo, ?_⟩
      · rw [hcount, hd.count]
        rfl
      · rw [hd.opened, Option.toList_none, List.append_nil]

end

/-! ## both directions -/

/-- two sessions that share their keys, before their first message -/
structure Pairing where
  reader : Reader.SessionManager
  device : Device.SessionManager
  skReader : device.skReader = reader.skReader
  skDevice : reader.skDevice = device.skDevice
  readerFresh : reader.readerMessageCounter = 0 ∧ reader.deviceMessageCounter = 0
  deviceFresh : device.readerMessageCounter = 0 ∧ device.deviceMessageCounter = 0

section
variable [Ciborium] [Coset] [Rfc3339] [X509Cert] [P256] [Sha2] [Clock]

/-- each session opened exactly the messages of the other that were delivered to it, each once and
in order, and its incoming counter is their number -/
structure InStep (s : System) : Prop where
  requests : Delivered s.requests s.requestsOpened s.device.readerMessageCounter
  responses : Delivered s.responses s.responsesOpened s.reader.deviceMessageCounter

/-- in the state `s` either session opens an arriving ciphertext exactly when it is the next one
of the other session -/
structure OpensNext [AesGcm] (s : System) : Prop where
  device : ∀ op e, s.device.step op = some e →
    (e.opened.isSome ↔ ∃ c, e.incoming = some c ∧ s.requests.Next (·.ciphertext) c)
  reader : ∀ op e, s.reader.step op = some e →
    (e.opened.isSome ↔ ∃ c, e.incoming = some c ∧ s.responses.Next (·.ciphertext) c)

theorem Sending.logOf_requests {reader : Reader.SessionManager} {device : Device.SessionManager}
    {s : System} (h : Sending reader device s) : LogOf s.log true s.requests where
  mem _ hm := List.mem_append_left _ hm
  other _ hm := (List.mem_append.mp hm).imp_right h.responses.nonce

theorem Sending.logOf_responses {reader : Reader.SessionManager} {device : Device.SessionManager}
    {s : System} (h : Sending reader device s) : LogOf s.log false s.responses where
  mem _ hm := List.mem_append_right _ hm
  other _ hm := (List.mem_append.mp hm).symm.imp_right h.requests.nonce

/-- the sessions of a pairing with the channels between them -/
structure Paired (p : Pairing) (s : System) : Prop where
  sending : Sending p.reader p.device s
  inStep : InStep s

theorem Paired.start (p : Pairing) : Paired p (start p.reader p.device) where
  sending := .start _ _
  inStep :=
    { requests := ⟨by
        show p.device.readerMessageCounter.toNat = 0
        rw [p.deviceFresh.1]
        rfl, List.nil_prefix, rfl⟩
      responses := ⟨by
        show p.reader.deviceMessageCounter.toNat = 0
        rw [p.readerFresh.2]
        rfl, List.nil_prefix, rfl⟩ }

section
variable {sealWith : SessionKey → Nonce → Bytes → Option Bytes} {p : Pairing} {s t : System}

theorem Paired.requests (h : Paired p s) :
    Sends s.device.skReader true 0 s.reader.readerMessageCounter s.requests.sent := by
  have hs := h.sending.requests
  rw [p.readerFresh.1] at hs
  rw [h.sending.deviceKeys.1, p.skReader]
  exact hs

theorem Paired.responses (h : Paired p s) :
    Sends s.reader.skDevice false 0 s.device.deviceMessageCounter s.responses.sent := by
  have hs := h.sending.responses
  rw [p.deviceFresh.2] at hs
  rw [h.sending.readerKeys.2, p.skDevice]
  exact hs

/-- **Every action keeps both sessions in step with the channels.** -/
theorem Paired.step {a : Action} (h : Paired p s) (hst : s.step (idealAead sealWith) a = some t) :
    Paired p t := by
  refine ⟨h.sending.step hst, ?_⟩
  let _ := idealAead sealWith s.log
  cases a with
  | reader op =>
    obtain ⟨e, he, rfl⟩ := Option.map_eq_some_iff.mp hst
    have hspec := Reader.SessionManager.step_spec he
    exact ⟨h.inStep.requests.sendOption e.sealing,
      h.inStep.responses.deliverOption h.responses h.sending.logOf_responses hspec.incoming⟩
  | device op =>
    obtain ⟨e, he, rfl⟩ := Option.map_eq_some_iff.mp hst
    have hspec := Device.SessionManager.step_spec he
    exact ⟨h.inStep.requests.deliverOption h.requests h.sending.logOf_requests hspec.incoming,
      h.inStep.responses.sendOption e.sealing⟩

theorem Incoming.isSome_iff {log : List Sealing} {key : SessionKey} {reader : Bool}
    {now sent after : UInt32} {ch : Channel Sealing} {opened : List Bytes}
    {plaintext incoming : Option Bytes} (hs : Sends key reader 0 sent ch.sent)
    (hlog : LogOf log reader ch) (hd : Delivered ch opened now)
    (hin : letI := idealAead sealWith log
      Incoming key reader now after plaintext incoming) :
    plaintext.isSome ↔ ∃ c, incoming = some c ∧ ch.Next (·.ciphertext) c := by
  let _ := idealAead sealWith log
  cases incoming with
  | none =>
    rw [hin.2]
    simp
  | some c =>
    have heq : plaintext = (decrypt key c now reader).1 := congrArg Prod.fst hin
    cases hd.decrypt_eq sealWith hs hlog c with
    | inl hnext =>
      obtain ⟨m, hm, hcipher, hopen⟩ := hnext
      rw [heq, hopen]
      exact ⟨fun _ => ⟨c, rfl, m, hm, hcipher⟩, fun _ => rfl⟩
    | inr hnone =>
      obtain ⟨hnext, hopen⟩ := hnone
      rw [heq, hopen]
      refine ⟨fun h => (Bool.false_ne_true h).elim, ?_⟩
      intro ⟨c', hc', hnext'⟩
      cases hc'
      exact absurd hnext' hnext

theorem Paired.opensNext (h : Paired p s) :
    letI := idealAead sealWith s.log
    OpensNext s := by
  let _ := idealAead sealWith s.log
  refine ⟨fun op e he => ?_, fun op e he => ?_⟩
  · exact Incoming.isSome_iff h.requests h.sending.logOf_requests h.inStep.requests
      (Device.SessionManager.step_spec he).incoming
  · exact Incoming.isSome_iff h.responses h.sending.logOf_responses h.inStep.responses
      (Reader.SessionManager.step_spec he).incoming

end

/-- **Injection and replay leave the sessions in step.**  With the ideal AEAD, in every run of two
sessions that share their keys, whatever bytes arrive: each session opened exactly the messages of
the other that were delivered to it, each once and in order, its incoming counter is their number,
and it opens what arrives next exactly when that is the other session's next message. -/
theorem robust (sealWith : SessionKey → Nonce → Bytes → Option Bytes) (p : Pairing) :
    Run.Always (step (idealAead sealWith)) (start p.reader p.device) fun s =>
      InStep s ∧ @OpensNext _ _ _ _ _ _ _ (idealAead sealWith s.log) s := by
  have hinv : Run.Always (step (idealAead sealWith)) (start p.reader p.device) (Paired p) :=
    Run.Always.of_invariant (.start p) fun s a t h hst => h.step hst
  exact hinv.mono fun s h => ⟨h.inStep, h.opensNext⟩

end

end System

end Isomdl
