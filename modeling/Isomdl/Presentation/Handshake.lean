import Isomdl.Definitions.QrCode
import Isomdl.Presentation.Delivery
import Isomdl.Presentation.Disclosure
import Isomdl.Reference.X509

/-!
# Opening a session (`presentation/device.rs`, `presentation/reader.rs`, `presentation/mod.rs`)

The device publishes its ephemeral key in a QR code; the reader answers with its own key and its
first request, encrypted; the device derives the same keys and decrypts the request.

* `Reader.SessionManager.establishSession_eq`   what the reader derives from the QR code;
* `handshake_agrees`   both sides end with the same transcript, keys, identifier and counters, and
                       the device holds the request that the reader built;
* `handshake_run`      the two sessions are those of a pairing after their first two actions.
-/

set_option linter.unusedSectionVars false

namespace Isomdl

open Cbor

/-- `[u8; 16]` -/
abbrev BleIdent := {b : Bytes // b.length = 16}

/-- `calculate_ble_ident` -/
def calculateBleIdent [Ciborium] [Hkdf] (eDeviceKey : Tag24 CoseKey) : Except String BleIdent := do
  let eDeviceKeyBytes ← (toVec eDeviceKey).mapError CborError.display
  (Hkdf.expand none eDeviceKeyBytes "BLEIdent".toUTF8.data.toList 16).mapError fun e =>
    "unable to perform HKDF: " ++ e

/-! ## the device -/

namespace Device

structure SessionManagerInit where
  documents : Documents
  eDeviceKey : SecretKey
  deviceEngagement : Tag24 DeviceEngagement

structure SessionManagerEngaged where
  documents : Documents
  eDeviceKey : SecretKey
  deviceEngagement : Tag24 DeviceEngagement
  handover : Handover

section
variable [Ciborium]

/-- `Error::Tag24CborEncoding` -/
def tag24CborEncoding (e : Tag24.Error) : String := "error encoding value to CBOR: " ++ e.display

/-- `SessionManagerInit::initialise`, for the secret key that is drawn -/
def SessionManagerInit.initialise [P256] (privateKey : SecretKey) (documents : Documents)
    (deviceRetrievalMethods : Option (NonEmptyVec DeviceRetrievalMethod))
    (serverRetrievalMethods : Option ServerRetrievalMethods) :
    Except String SessionManagerInit := do
  let (eDeviceKey, eDeviceKeyPub) := createP256EphemeralKeys privateKey
  let eDeviceKeyBytes ← (Tag24.new eDeviceKeyPub).mapError tag24CborEncoding
  let deviceEngagement : DeviceEngagement :=
    { version := "1.0"
      security := ⟨1, eDeviceKeyBytes⟩
      deviceRetrievalMethods, serverRetrievalMethods
      protocolInfo := none }
  let deviceEngagement ← (Tag24.new deviceEngagement).mapError tag24CborEncoding
  .ok { documents, eDeviceKey, deviceEngagement }

/-- `SessionManagerInit::ble_ident` -/
def SessionManagerInit.bleIdent [Hkdf] (sm : SessionManagerInit) : Except String BleIdent :=
  calculateBleIdent sm.deviceEngagement.inner.security.eDeviceKeyBytes

/-- `SessionManagerInit::qr_engagement`, which does not fail -/
def SessionManagerInit.qrEngagement [Base64] (sm : SessionManagerInit) :
    SessionManagerEngaged × String :=
  ({ documents := sm.documents
     deviceEngagement := sm.deviceEngagement
     eDeviceKey := sm.eDeviceKey
     handover := .QR },
   DeviceEngagement.toQrCodeUri sm.deviceEngagement)

/-- `SessionManagerEngaged::process_session_establishment` -/
def SessionManagerEngaged.processSessionEstablishment [Coset] [X509Cert] [P256] [Sha2] [Clock]
    [AesGcm] (sm : SessionManagerEngaged) (sessionEstablishment : SessionEstablishment)
    (trustedVerifiers : TrustAnchorRegistry) :
    Except String (SessionManager × RequestAuthenticationOutcome) := do
  let eReaderKey := sessionEstablishment.eReaderKey
  let sessionTranscript : SessionTranscript180135 := ⟨sm.deviceEngagement, eReaderKey, sm.handover⟩
  let sessionTranscriptBytes ← (Tag24.new sessionTranscript).mapError tag24CborEncoding
  let sharedSecret ← (getSharedSecret eReaderKey.inner sm.eDeviceKey).mapError fun e =>
    "unable to generate shared secret: " ++ e
  let skReader ← deriveSessionKey sharedSecret sessionTranscriptBytes true
  let skDevice ← deriveSessionKey sharedSecret sessionTranscriptBytes false
  let session : SessionManager :=
    { documents := sm.documents
      sessionTranscript, skDevice
      deviceMessageCounter := 0
      skReader
      readerMessageCounter := 0
      state := .AwaitingRequest
      trustedVerifiers
      deviceAuthType := .Sign1 }
  let (validatedRequest, session) :=
    session.handleDecodedRequest ⟨some sessionEstablishment.data, none⟩
  .ok (session, validatedRequest)

end

end Device

/-! ## the reader -/

/-- `SessionManager::establish_session`, for the secret key that is drawn; an error with a context
displays the context -/
def Reader.SessionManager.establishSession [Ciborium] [Coset] [P256] [AesGcm] [Hkdf] [Base64]
    (qrCode : String) (privateKey : SecretKey) (namespaces : RequestNamespaces)
    (trustAnchorRegistry : TrustAnchorRegistry) :
    Except String (Reader.SessionManager × Bytes × BleIdent) := do
  let deviceEngagementBytes ← (DeviceEngagement.fromQrCodeUri qrCode).mapError fun _ =>
    "failed to construct QR code"
  let (eReaderKeyPrivate, eReaderKeyPublic) := createP256EphemeralKeys privateKey
  let eReaderKeyPublic ← (Tag24.new eReaderKeyPublic).mapError fun _ =>
    "failed to encode public cose key"
  let eDeviceKey := deviceEngagementBytes.inner.security.eDeviceKeyBytes
  let bleIdent ← (calculateBleIdent eDeviceKey).mapError fun _ => "failed to calculate BLE Ident"
  let sharedSecret ← (getSharedSecret eDeviceKey.inner eReaderKeyPrivate).mapError fun _ =>
    "failed to derive shared session secret"
  let sessionTranscript : SessionTranscript180135 :=
    ⟨deviceEngagementBytes, eReaderKeyPublic, .QR⟩
  let sessionTranscriptBytes ← (Tag24.new sessionTranscript).mapError fun _ =>
    "failed to encode session transcript"
  let skReader ← (deriveSessionKey sharedSecret sessionTranscriptBytes true).mapError fun _ =>
    "failed to derive reader session key"
  let skDevice ← (deriveSessionKey sharedSecret sessionTranscriptBytes false).mapError fun _ =>
    "failed to derive device session key"
  let sessionManager : Reader.SessionManager :=
    { sessionTranscript, skDevice
      deviceMessageCounter := 0
      skReader
      readerMessageCounter := 0
      trustAnchorRegistry }
  let (request, sessionManager) := sessionManager.buildRequest namespaces
  let request ← request.mapError fun _ => "failed to build device request"
  let session : SessionEstablishment := ⟨eReaderKeyPublic, ⟨request.ciphertext⟩⟩
  let sessionRequest ← (toVec session).mapError fun _ => "failed to encode session establishment"
  .ok (sessionManager, sessionRequest, bleIdent)

/-! ## the values that both sides derive -/

/-- the public half of an ephemeral key, as it is sent -/
def ephemeralKey [Ciborium] [P256] (privateKey : SecretKey) : Tag24 CoseKey :=
  ⟨(createP256EphemeralKeys privateKey).2,
    Ciborium.intoWriter (createP256EphemeralKeys privateKey).2.toCbor⟩

/-- the engagement of a device with this key -/
def engagement [Ciborium] [P256] (privateKey : SecretKey)
    (deviceRetrievalMethods : Option (NonEmptyVec DeviceRetrievalMethod))
    (serverRetrievalMethods : Option ServerRetrievalMethods) : Tag24 DeviceEngagement :=
  let inner : DeviceEngagement :=
    ⟨"1.0", ⟨1, ephemeralKey privateKey⟩, deviceRetrievalMethods, serverRetrievalMethods, none⟩
  ⟨inner, Ciborium.intoWriter inner.toCbor⟩

/-- the transcript as it is hashed -/
def transcriptBytes [Ciborium] (t : SessionTranscript180135) : Bytes :=
  Ciborium.intoWriter (.tag 24 (.bytes (Ciborium.intoWriter (.array
    [t.deviceEngagementBytes.toCbor, t.eReaderKeyBytes.toCbor, t.handover.toCbor]))))

/-- the session key of a direction -/
def sessionKey [Ciborium] (sharedSecret : {b : Bytes // b.length = 32})
    (t : SessionTranscript180135) (reader : Bool) : SessionKey :=
  hkdfSha256_32 sharedSecret (secureSha256 [transcriptBytes t])
    (if reader then "SKReader" else "SKDevice").toUTF8.data.toList

section
variable [LawfulCiborium] [P256]

theorem ephemeralKey_fromSlice (privateKey : SecretKey) :
    fromSlice CoseKey (ephemeralKey privateKey).innerBytes = .ok (ephemeralKey privateKey).inner :=
  CoseKey.fromSlice_intoWriter _

theorem engagement_fromSlice (privateKey : SecretKey)
    (methods : Option (NonEmptyVec DeviceRetrievalMethod)) (servers : Option ServerRetrievalMethods) :
    fromSlice DeviceEngagement (engagement privateKey methods servers).innerBytes =
      .ok (engagement privateKey methods servers).inner :=
  DeviceEngagement.fromSlice_intoWriter rfl rfl
    (Tag24.ofValue_toCbor (ephemeralKey_fromSlice privateKey))

/-- the point of a public key, as `CoseKey` spells it, is read back -/
def ReadsPoint (privateKey : SecretKey) : Prop :=
  P256.fromSec1Point (4 :: ((P256.publicKey privateKey).x.1 ++ (P256.publicKey privateKey).y.1)) =
    some (P256.publicKey privateKey)

theorem getSharedSecret_ephemeralKey {privateKey : SecretKey} (h : ReadsPoint privateKey)
    (other : SecretKey) :
    getSharedSecret (ephemeralKey privateKey).inner other =
      .ok (P256.diffieHellman other (P256.publicKey privateKey)) := by
  have hpoint : (ephemeralKey privateKey).inner.toSec1Point =
      .ok (4 :: ((P256.publicKey privateKey).x.1 ++ (P256.publicKey privateKey).y.1)) :=
    if_neg (by rw [(P256.publicKey privateKey).x.2, (P256.publicKey privateKey).y.2]; decide)
  unfold ReadsPoint at h
  rw [getSharedSecret, hpoint, ok_bind, h]

end

/-! ## what each side derives -/

section
variable [LawfulCiborium] [P256]

variable [Coset] [AesGcm]

/-- the reader before its first request -/
def readerStart (eReaderKey : SecretKey) (deviceKey : PublicKey)
    (engagement : Tag24 DeviceEngagement) (trustAnchorRegistry : TrustAnchorRegistry) :
    Reader.SessionManager :=
  let sessionTranscript : SessionTranscript180135 := ⟨engagement, ephemeralKey eReaderKey, .QR⟩
  let sharedSecret := P256.diffieHellman eReaderKey deviceKey
  { sessionTranscript
    skDevice := sessionKey sharedSecret sessionTranscript false
    deviceMessageCounter := 0
    skReader := sessionKey sharedSecret sessionTranscript true
    readerMessageCounter := 0
    trustAnchorRegistry }

/-- the device before its first request -/
def deviceStart (sm : Device.SessionManagerEngaged) (eReaderKey : Tag24 CoseKey)
    (readerKey : PublicKey) (trustedVerifiers : TrustAnchorRegistry) : Device.SessionManager :=
  let sessionTranscript : SessionTranscript180135 := ⟨sm.deviceEngagement, eReaderKey, sm.handover⟩
  let sharedSecret := P256.diffieHellman sm.eDeviceKey readerKey
  { documents := sm.documents
    sessionTranscript
    skDevice := sessionKey sharedSecret sessionTranscript false
    deviceMessageCounter := 0
    skReader := sessionKey sharedSecret sessionTranscript true
    readerMessageCounter := 0
    state := .AwaitingRequest
    trustedVerifiers
    deviceAuthType := .Sign1 }

/-- **What the reader makes of a published engagement.** -/
theorem Reader.SessionManager.establishSession_eq [Hkdf] [LawfulBase64] {eDeviceKey : SecretKey}
    (hpoint : ReadsPoint eDeviceKey) (eReaderKey : SecretKey)
    (methods : Option (NonEmptyVec DeviceRetrievalMethod)) (servers : Option ServerRetrievalMethods)
    (namespaces : RequestNamespaces) (trustAnchorRegistry : TrustAnchorRegistry) :
    let published := engagement eDeviceKey methods servers
    let built := (readerStart eReaderKey (P256.publicKey eDeviceKey) published
      trustAnchorRegistry).buildRequest namespaces
    establishSession (DeviceEngagement.toQrCodeUri published) eReaderKey namespaces
        trustAnchorRegistry = (do
      let bleIdent ← (calculateBleIdent (ephemeralKey eDeviceKey)).mapError fun _ =>
        "failed to calculate BLE Ident"
      let request ← built.1.mapError fun _ => "failed to build device request"
      let session : SessionEstablishment := ⟨ephemeralKey eReaderKey, ⟨request.ciphertext⟩⟩
      let sessionRequest ← (toVec session).mapError fun _ => "failed to encode session establishment"
      .ok (built.2, sessionRequest, bleIdent)) := by
  intro published built
  have hqr := DeviceEngagement.fromQrCodeUri_toQrCodeUri
    (engagement_fromSlice eDeviceKey methods servers)
  rw [establishSession, hqr]
  show ((calculateBleIdent (ephemeralKey eDeviceKey)).mapError _ >>= fun bleIdent => _) = _
  congr 1
  funext bleIdent
  have hsecret := getSharedSecret_ephemeralKey hpoint eReaderKey
  show ((getSharedSecret (ephemeralKey eDeviceKey).inner eReaderKey).mapError _ >>= _) = _
  rw [hsecret]
  rfl

/-- **What the device makes of the reader's message.** -/
theorem Device.SessionManagerEngaged.processSessionEstablishment_eq [X509Cert] [Sha2] [Clock]
    (sm : Device.SessionManagerEngaged) {eReaderKey : SecretKey} (hpoint : ReadsPoint eReaderKey)
    (data : ByteStr) (trustedVerifiers : TrustAnchorRegistry) :
    let handled := (deviceStart sm (ephemeralKey eReaderKey) (P256.publicKey eReaderKey)
      trustedVerifiers).handleDecodedRequest ⟨some data, none⟩
    sm.processSessionEstablishment ⟨ephemeralKey eReaderKey, data⟩ trustedVerifiers =
      .ok (handled.2, handled.1) := by
  intro handled
  have hsecret := getSharedSecret_ephemeralKey hpoint sm.eDeviceKey
  rw [processSessionEstablishment]
  show ((getSharedSecret (ephemeralKey eReaderKey).inner sm.eDeviceKey).mapError _ >>= _) = _
  rw [hsecret]
  rfl

end

/-! ## the first request -/

section
variable [LawfulCiborium] [Coset]

/-- **The request that the reader builds is encoded, and reads back.** -/
theorem Reader.SessionManager.deviceRequest_reads (namespaces : RequestNamespaces) :
    ∃ request bytes, deviceRequest namespaces = .ok request ∧ toVec request = .ok bytes ∧
      Device.parseRequest bytes = .ok request := by
  let items : ItemsRequest := ⟨MDL_DOC_TYPE, namespaces, none⟩
  obtain ⟨itemBytes, hitems⟩ : ∃ bytes, toVec items = .ok bytes :=
    ⟨_, toVec_ok (ItemsRequest.toValue_eq rfl)⟩
  have hnew : Tag24.new items = .ok ⟨items, itemBytes⟩ := by
    rw [Tag24.new, hitems]
    rfl
  let request : DeviceRequest :=
    ⟨DeviceRequest.VERSION, NonEmptyVec.new ⟨⟨items, itemBytes⟩, none⟩, none, none⟩
  have hunsigned : request.Unsigned := by
    refine ⟨?_, ?_, rfl, rfl⟩
    · intro d hd
      rw [List.mem_singleton.mp hd]
    · intro d hd
      rw [List.mem_singleton.mp hd]
      exact ItemsRequest.fromSlice_toVec rfl hitems
  refine ⟨request, _, ?_, toVec_ok (DeviceRequest.toValue_eq hunsigned), ?_⟩
  · rw [deviceRequest]
    show ((Tag24.new items).mapError Tag24.Error.display >>= _) = _
    rw [hnew]
    rfl
  · have hvalue := LawfulCiborium.fromSlice_intoWriter (α := Value) (request.plain 12) rfl
    rw [Device.parseRequest, hvalue]
    simp only [fromValue, DeviceRequest.ofValue_toValue hunsigned]

variable [AesGcm]

/-- the AEAD encrypts the request for these namespaces -/
def EncryptsRequest (namespaces : RequestNamespaces) : Prop :=
  ∀ request bytes, Reader.SessionManager.deviceRequest namespaces = .ok request →
    toVec request = .ok bytes →
      ∀ key nonce, ∃ ciphertext, AesGcm.encryptWithBackend key nonce bytes = some ciphertext

/-- **A fresh reader's request is sealed under the first count.** -/
theorem Reader.SessionManager.buildRequest_fresh (sm : Reader.SessionManager)
    (hfresh : sm.readerMessageCounter = 0) {namespaces : RequestNamespaces}
    (henc : EncryptsRequest namespaces) {request : DeviceRequest} {bytes : Bytes}
    (hrequest : deviceRequest namespaces = .ok request) (hbytes : toVec request = .ok bytes) :
    ∃ ciphertext,
      AesGcm.encryptWithBackend sm.skReader (initializationVector 1 true) bytes =
        some ciphertext ∧
      sm.buildRequest namespaces =
        (.ok ⟨sm.skReader, initializationVector 1 true, bytes, ciphertext⟩,
          { sm with readerMessageCounter := 1 }) := by
  obtain ⟨ciphertext, hseal⟩ :=
    henc request bytes hrequest hbytes sm.skReader (initializationVector 1 true)
  refine ⟨ciphertext, hseal, ?_⟩
  have hiv : getInitializationVector 0 true = some (initializationVector 1 true, 1) := rfl
  unfold buildRequest
  simp only [hrequest, hbytes, encryptReaderData, encrypt, hfresh, hiv, hseal]

end

/-! ## agreement -/

section
variable [LawfulCiborium] [Coset] [X509Cert] [P256] [Sha2] [Clock] [AesGcm] [Hkdf]

/-- what the two sides of a session have in common after the reader's first message: the encoded
transcript, the keys, the identifier, the counters, and the request -/
structure Agreement (init : Device.SessionManagerInit) (namespaces : RequestNamespaces)
    (reader : Reader.SessionManager) (establishment : SessionEstablishment) (bleIdent : BleIdent)
    (device : Device.SessionManager) (outcome : RequestAuthenticationOutcome) : Prop where
  transcript : ∃ bytes, toVec reader.sessionTranscript = .ok bytes ∧
    toVec device.sessionTranscript = .ok bytes
  skReader : reader.skReader = device.skReader
  skDevice : reader.skDevice = device.skDevice
  bleIdent : init.bleIdent = .ok bleIdent
  readerMessageCounter : reader.readerMessageCounter = device.readerMessageCounter
  deviceMessageCounter : reader.deviceMessageCounter = device.deviceMessageCounter
  request : ∃ request plaintext, Reader.SessionManager.deviceRequest namespaces = .ok request ∧
    toVec request = .ok plaintext ∧
    decryptReaderData device.skReader establishment.data.bytes 0 = (some plaintext, 1) ∧
    Device.parseRequest plaintext = .ok request ∧ outcome = Device.validateRequest device request

end

section
variable [LawfulCiborium] [LawfulAesGcm] [P256] [Coset] [X509Cert] [Sha2] [Clock]

/-- **A fresh device opens the request that a fresh reader sealed with the same key.** -/
theorem Device.SessionManager.handleDecodedRequest_fresh (sm : Device.SessionManager)
    (hfresh : sm.readerMessageCounter = 0) {request : DeviceRequest} {plaintext ciphertext : Bytes}
    (hseal : AesGcm.encryptWithBackend sm.skReader (initializationVector 1 true) plaintext =
      some ciphertext) (hparse : parseRequest plaintext = .ok request) :
    decryptReaderData sm.skReader ciphertext 0 = (some plaintext, 1) ∧
      sm.handleDecodedRequest ⟨some ⟨ciphertext⟩, none⟩ =
        (validateRequest { sm with readerMessageCounter := 1 } request,
          { sm with readerMessageCounter := 1 }) := by
  have hopen := LawfulAesGcm.decrypt_encrypt hseal
  have hdec : decryptReaderData sm.skReader ciphertext 0 = (some plaintext, 1) := by
    have hcount : (1 : UInt32).toNat = (0 : UInt32).toNat + 1 := rfl
    rw [decryptReaderData, decrypt_of_count hcount, hopen]
  refine ⟨hdec, ?_⟩
  unfold handleDecodedRequest
  simp only [hfresh, hdec, hparse]

/-- what the two sides need of P-256: their points read back, and the key agreement commutes -/
structure AgreesOn (eDeviceKey eReaderKey : SecretKey) : Prop where
  device : ReadsPoint eDeviceKey
  reader : ReadsPoint eReaderKey
  commutes : P256.diffieHellman eDeviceKey (P256.publicKey eReaderKey) =
    P256.diffieHellman eReaderKey (P256.publicKey eDeviceKey)

/-- the two sessions before their first message, which share their keys -/
def handshakePairing {eDeviceKey eReaderKey : SecretKey} (h : AgreesOn eDeviceKey eReaderKey)
    (documents : Device.Documents) (methods : Option (NonEmptyVec DeviceRetrievalMethod))
    (servers : Option ServerRetrievalMethods)
    (trustAnchorRegistry trustedVerifiers : TrustAnchorRegistry) : System.Pairing :=
  let published := engagement eDeviceKey methods servers
  { reader := readerStart eReaderKey (P256.publicKey eDeviceKey) published trustAnchorRegistry
    device := deviceStart ⟨documents, eDeviceKey, published, .QR⟩ (ephemeralKey eReaderKey)
      (P256.publicKey eReaderKey) trustedVerifiers
    skReader := by
      show sessionKey (P256.diffieHellman eDeviceKey _) _ true = sessionKey _ _ true
      rw [h.commutes]
    skDevice := by
      show sessionKey _ _ false = sessionKey (P256.diffieHellman eDeviceKey _) _ false
      rw [h.commutes]
    readerFresh := ⟨rfl, rfl⟩
    deviceFresh := ⟨rfl, rfl⟩ }

variable [LawfulBase64] [Hkdf]

/-- **Both sides of a handshake agree.**  For any keys, retrieval methods and requested namespaces,
when the reader opens a session from the published engagement and the device processes its message,
both succeed and agree on transcript, keys, identifier and counters, and the device decrypts the
request that the reader built. -/
theorem handshake_agrees {eDeviceKey eReaderKey : SecretKey}
    (hkeys : AgreesOn eDeviceKey eReaderKey)
    (hexpand : ∀ ikm info, ∃ okm, Hkdf.expand none ikm info 16 = .ok okm)
    (documents : Device.Documents) (methods : Option (NonEmptyVec DeviceRetrievalMethod))
    (servers : Option ServerRetrievalMethods) {namespaces : RequestNamespaces}
    (hencrypts : EncryptsRequest namespaces)
    (trustAnchorRegistry trustedVerifiers : TrustAnchorRegistry) :
    ∃ init reader message bleIdent establishment device outcome,
      Device.SessionManagerInit.initialise eDeviceKey documents methods servers = .ok init ∧
      Reader.SessionManager.establishSession init.qrEngagement.2 eReaderKey namespaces
        trustAnchorRegistry = .ok (reader, message, bleIdent) ∧
      fromSlice SessionEstablishment message = .ok establishment ∧
      init.qrEngagement.1.processSessionEstablishment establishment trustedVerifiers =
        .ok (device, outcome) ∧
      Agreement init namespaces reader establishment bleIdent device outcome := by
  obtain ⟨bleIdent, hokm⟩ := hexpand (Ciborium.intoWriter (ephemeralKey eDeviceKey).toCbor)
    "BLEIdent".toUTF8.data.toList
  have hble : calculateBleIdent (ephemeralKey eDeviceKey) = .ok bleIdent := by
    rw [calculateBleIdent, Tag24.toVec_eq]
    show (Hkdf.expand none _ _ 16).mapError _ = _
    rw [hokm]
    rfl
  obtain ⟨request, plaintext, hrequest, hplaintext, hparse⟩ :=
    Reader.SessionManager.deviceRequest_reads namespaces
  let p := handshakePairing hkeys documents methods servers trustAnchorRegistry trustedVerifiers
  obtain ⟨ciphertext, hseal, hbuilt⟩ := Reader.SessionManager.buildRequest_fresh
    p.reader p.readerFresh.1 hencrypts hrequest hplaintext
  obtain ⟨message, hmessage⟩ :
      ∃ bytes, toVec (SessionEstablishment.mk (ephemeralKey eReaderKey) ⟨ciphertext⟩) = .ok bytes :=
    ⟨_, toVec_ok (SessionEstablishment.toValue_eq _)⟩
  rw [← p.skReader] at hseal
  obtain ⟨hdec, hhandled⟩ := Device.SessionManager.handleDecodedRequest_fresh
    p.device p.deviceFresh.1 hseal hparse
  refine ⟨⟨documents, eDeviceKey, engagement eDeviceKey methods servers⟩,
    { p.reader with readerMessageCounter := 1 }, message, bleIdent,
    ⟨ephemeralKey eReaderKey, ⟨ciphertext⟩⟩, { p.device with readerMessageCounter := 1 },
    Device.validateRequest { p.device with readerMessageCounter := 1 } request, rfl, ?_, ?_, ?_, ?_⟩
  · show Reader.SessionManager.establishSession (DeviceEngagement.toQrCodeUri _) _ _ _ = _
    rw [Reader.SessionManager.establishSession_eq hkeys.device, hble]
    show ((p.reader.buildRequest namespaces).1.mapError _ >>= fun request =>
      (toVec (SessionEstablishment.mk (ephemeralKey eReaderKey) ⟨request.ciphertext⟩)).mapError _ >>=
        fun sessionRequest =>
          Except.ok ((p.reader.buildRequest namespaces).2, sessionRequest, bleIdent)) = _
    simp only [hbuilt, Except.mapError, ok_bind, hmessage]
  · exact SessionEstablishment.fromSlice_toVec (ephemeralKey_fromSlice eReaderKey) hmessage
  · rw [Device.SessionManagerEngaged.processSessionEstablishment_eq _ hkeys.reader]
    show Except.ok ((p.device.handleDecodedRequest ⟨some ⟨ciphertext⟩, none⟩).2,
      (p.device.handleDecodedRequest ⟨some ⟨ciphertext⟩, none⟩).1) = _
    rw [hhandled]
  · exact
      { transcript := ⟨_, toVec_ok rfl, toVec_ok rfl⟩
        skReader := p.skReader.symm
        skDevice := p.skDevice
        bleIdent := hble
        readerMessageCounter := rfl
        deviceMessageCounter := rfl
        request := ⟨request, plaintext, hrequest, hplaintext, hdec, hparse, rfl⟩ }

end

section
open scoped Reference

/-- the two smallest keys -/
def Sample.eDeviceKey : SecretKey := ⟨1, by decide⟩
def Sample.eReaderKey : SecretKey := ⟨2, by decide⟩

theorem Sample.agreesOn : AgreesOn Sample.eDeviceKey Sample.eReaderKey where
  device := by
    unfold ReadsPoint
    decide +kernel
  reader := by
    unfold ReadsPoint
    decide +kernel
  commutes := by decide +kernel

theorem Sample.encryptsRequest (namespaces : RequestNamespaces) : EncryptsRequest namespaces :=
  fun _ _ _ _ _ _ => ⟨_, rfl⟩

/-- what the device offers: BLE, NFC and a server -/
def Sample.offered : DeviceEngagement :=
  DeviceEngagement.Sample.engagement (ephemeralKey Sample.eDeviceKey)

theorem handshake_agrees_sample :
    ∃ init reader message bleIdent establishment device outcome,
      Device.SessionManagerInit.initialise Sample.eDeviceKey
        (Device.Sample.documents Device.Sample.coseKey) Sample.offered.deviceRetrievalMethods
        Sample.offered.serverRetrievalMethods = .ok init ∧
      Reader.SessionManager.establishSession init.qrEngagement.2 Sample.eReaderKey
        (NonEmptyMap.new "org.iso.18013.5.1" (NonEmptyMap.new "family_name" true)) ⟨[]⟩ =
          .ok (reader, message, bleIdent) ∧
      fromSlice SessionEstablishment message = .ok establishment ∧
      init.qrEngagement.1.processSessionEstablishment establishment ⟨[]⟩ = .ok (device, outcome) ∧
      Agreement init (NonEmptyMap.new "org.iso.18013.5.1" (NonEmptyMap.new "family_name" true))
        reader establishment bleIdent device outcome :=
  handshake_agrees Sample.agreesOn (Reference.hkdf_expand (by decide) none)
    (Device.Sample.documents Device.Sample.coseKey) Sample.offered.deviceRetrievalMethods
    Sample.offered.serverRetrievalMethods (Sample.encryptsRequest _) ⟨[]⟩ ⟨[]⟩

end

section
variable [LawfulCiborium] [LawfulAesGcm] [P256] [Coset] [X509Cert] [Sha2] [Clock]
variable [LawfulBase64] [Hkdf]

/-- a session that was opened, taken apart -/
theorem Reader.SessionManager.establishSession_ok {eDeviceKey : SecretKey}
    (hpoint : ReadsPoint eDeviceKey) {eReaderKey : SecretKey}
    {methods : Option (NonEmptyVec DeviceRetrievalMethod)} {servers : Option ServerRetrievalMethods}
    {namespaces : RequestNamespaces} {trustAnchorRegistry : TrustAnchorRegistry}
    {reader : Reader.SessionManager} {message : Bytes} {bleIdent : BleIdent}
    (h : establishSession (DeviceEngagement.toQrCodeUri (engagement eDeviceKey methods servers))
      eReaderKey namespaces trustAnchorRegistry = .ok (reader, message, bleIdent)) :
    ∃ sealing, (readerStart eReaderKey (P256.publicKey eDeviceKey)
        (engagement eDeviceKey methods servers) trustAnchorRegistry).buildRequest namespaces =
          (.ok sealing, reader) ∧
      toVec (SessionEstablishment.mk (ephemeralKey eReaderKey) ⟨sealing.ciphertext⟩) =
        .ok message := by
  rw [establishSession_eq hpoint] at h
  generalize (readerStart eReaderKey (P256.publicKey eDeviceKey)
    (engagement eDeviceKey methods servers) trustAnchorRegistry).buildRequest namespaces = built at h
  obtain ⟨result, sm⟩ := built
  cases hble : calculateBleIdent (ephemeralKey eDeviceKey) with
  | error e =>
    rw [hble] at h
    cases h
  | ok ident =>
    simp only [hble, Except.mapError, ok_bind] at h
    cases result with
    | error e => cases h
    | ok sealing =>
      simp only [ok_bind] at h
      cases hvec : toVec (SessionEstablishment.mk (ephemeralKey eReaderKey) ⟨sealing.ciphertext⟩) with
      | error e =>
        simp only [hvec] at h
        cases h
      | ok bytes =>
        simp only [hvec, ok_bind, Except.ok.injEq, Prod.mk.injEq] at h
        obtain ⟨hsm, hbytes, -⟩ := h
        exact ⟨sealing, by rw [hsm], by rw [hvec, hbytes]⟩

/-- **A handshake is the first two actions of a pairing.**  So what holds of every run of the two
sessions of a pairing holds of the sessions that a handshake opens. -/
theorem handshake_run [Rfc3339] {eDeviceKey eReaderKey : SecretKey}
    (hkeys : AgreesOn eDeviceKey eReaderKey) {documents : Device.Documents}
    {methods : Option (NonEmptyVec DeviceRetrievalMethod)} {servers : Option ServerRetrievalMethods}
    {namespaces : RequestNamespaces} {trustAnchorRegistry trustedVerifiers : TrustAnchorRegistry}
    {reader : Reader.SessionManager} {message : Bytes} {bleIdent : BleIdent}
    (hest : Reader.SessionManager.establishSession
      (DeviceEngagement.toQrCodeUri (engagement eDeviceKey methods servers)) eReaderKey namespaces
        trustAnchorRegistry = .ok (reader, message, bleIdent))
    {establishment : SessionEstablishment}
    (hread : fromSlice SessionEstablishment message = .ok establishment)
    {device : Device.SessionManager} {outcome : RequestAuthenticationOutcome}
    (hprocess : Device.SessionManagerEngaged.processSessionEstablishment
      ⟨documents, eDeviceKey, engagement eDeviceKey methods servers, .QR⟩ establishment
        trustedVerifiers = .ok (device, outcome)) :
    let p := handshakePairing hkeys documents methods servers trustAnchorRegistry trustedVerifiers
    ∃ s, Run.after (System.step fun _ => inferInstance) (System.start p.reader p.device)
        [.reader (.buildRequest namespaces),
         .device (.handleDecodedRequest ⟨some establishment.data, none⟩)] = some s ∧
      s.reader = reader ∧ s.device = device := by
  intro p
  obtain ⟨sealing, hbuilt, hmessage⟩ :=
    Reader.SessionManager.establishSession_ok hkeys.device hest
  rw [SessionEstablishment.fromSlice_toVec (ephemeralKey_fromSlice eReaderKey) hmessage] at hread
  cases hread
  rw [Device.SessionManagerEngaged.processSessionEstablishment_eq _ hkeys.reader] at hprocess
  refine ⟨_, rfl, ?_, ?_⟩
  · exact congrArg Prod.snd hbuilt
  · exact congrArg Prod.fst (Except.ok.inj hprocess)

end

end Isomdl
