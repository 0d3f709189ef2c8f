import Isomdl.Issuance.Complete
import Isomdl.Presentation.DeviceVerdict
import Isomdl.Presentation.StoredDocument

/-!
# A credential, from its issuer to the reader's verdict on it

What the issuer completes carries its certificate chain and a signature under the chain's leaf.
Both stay with the credential when it is loaded, stored, restored and presented, so that the reader's
verdict on the issuer is that on the chain.

* `LawfulCosetHeader`      the parameters of a header, on the wire;
* `SignedBy.kept`          a signature is kept when it is written and read;
* `Issued.signedBy`        every credential in circulation is signed;
* `issued_verdict`         in a run: the verdict on the issuer of a credential is that on its chain.
-/

set_option linter.unusedSectionVars false

namespace Isomdl

open Cbor

/-! ## the parameters of a header -/

/-- a label without a field of its own in `coset::Header` -/
def Label.Uncommon : Label → Prop
  | .int i => i < 1 ∨ 7 < i
  | .text _ => True

namespace Header

/-- the first parameter with a label -/
def parameter (h : Header) (l : Label) : Option Value :=
  (h.rest.find? fun e => e.1 = l).map Prod.snd

theorem parameter_cons (alg : Option AlgorithmLabel) (l' : Label) (v : Value)
    (rest : List (Label × Value)) (l : Label) :
    parameter ⟨alg, (l', v) :: rest⟩ l = if l' = l then some v else parameter ⟨none, rest⟩ l := by
  show ((List.find? _ ((l', v) :: rest)).map Prod.snd) = _
  rw [List.find?_cons]
  by_cases h : l' = l
  · simp [h]
  · simp [h, parameter]

theorem parameter_congr {h h' : Header} (hrest : h'.rest = h.rest) (l : Label) :
    h'.parameter l = h.parameter l := by
  rw [parameter, parameter, hrest]

theorem parameter_append {h : Header} {l : Label} (hnone : h.parameter l = none)
    (rest : List (Label × Value)) :
    parameter ⟨h.alg, h.rest ++ rest⟩ l = parameter ⟨none, rest⟩ l := by
  have hfind : (h.rest.find? fun e => e.1 = l) = none := Option.map_eq_none_iff.mp hnone
  show ((List.find? _ (h.rest ++ rest)).map Prod.snd) = _
  rw [List.find?_append, hfind]
  rfl

end Header

/-- `coset` writes and reads the parameters that it has no fields for as they are -/
class LawfulCosetHeader [CosetHeader] : Prop where
  parameter {h h' : Header} {v v' : Value} {l : Label} : CosetHeader.toCborValue h = .ok v →
    v.Similar v' → CosetHeader.fromCborValue v' = .ok h' → l.Uncommon →
      Option.Rel Value.Similar (h.parameter l) (h'.parameter l)

namespace Reference

theorem headerStep_one {hrange : -(2 ^ 64) ≤ (1 : Int) ∧ (1 : Int) < 2 ^ 64} {v : Value}
    {header h' : Header}
    (h : (match Value.integer ⟨1, hrange⟩, v with
      | .integer ⟨1, _⟩, .integer i => .ok { header with alg := some (algorithmOfId i.1) }
      | .integer ⟨1, _⟩, .text s => .ok { header with alg := some (.text s) }
      | .integer ⟨1, _⟩, _ => .error "expected int/tstr"
      | .integer i, _ => .ok { header with rest := (.int i.1, v) :: header.rest }
      | .text s, _ => .ok { header with rest := (.text s, v) :: header.rest }
      | _, _ => .error "expected int/tstr") = Except.ok (ε := String) h') :
    h'.rest = header.rest := by
  cases v with
  | integer i =>
    cases h
    rfl
  | text s =>
    cases h
    rfl
  | _ => cases h

/-- the parameters of a header, one entry at a time -/
theorem parameter_headerOfEntries {rest : List (Label × Value)} {ws : List (Value × Value)}
    {h' : Header} {l : Label}
    (hsim : Value.SimilarEntries (rest.map fun e => (labelValue e.1, e.2)) ws)
    (h : headerOfEntries ws = .ok h') (hl : l ≠ .int 1) :
    Option.Rel Value.Similar (Header.parameter ⟨none, rest⟩ l) (h'.parameter l) := by
  induction rest generalizing ws h' with
  | nil =>
    cases hsim
    cases h
    exact .none
  | cons e rest ih =>
    obtain ⟨label, value⟩ := e
    obtain ⟨k, w, ws, rfl, hk, hw, hsim⟩ := hsim
    obtain ⟨header, hheader, h⟩ := bind_eq_ok h
    have hrel := ih hsim hheader
    have hcons (label : Label) (alg : Option AlgorithmLabel) : Option.Rel Value.Similar
        (Header.parameter ⟨none, (label, value) :: rest⟩ l)
        (Header.parameter ⟨alg, (label, w) :: header.rest⟩ l) := by
      rw [Header.parameter_cons, Header.parameter_cons]
      by_cases hlabel : label = l
      · rw [if_pos hlabel, if_pos hlabel]
        exact .some hw
      · rw [if_neg hlabel, if_neg hlabel]
        exact hrel
    cases label with
    | text s =>
      have htext : k = .text s := hk
      rw [htext] at h
      cases h
      exact hcons _ _
    | int i =>
      have hint : (ofInt i).Similar k := hk
      unfold ofInt at hint
      split at hint
      · have hinteger : k = .integer ⟨i, by assumption⟩ := hint
        rw [hinteger] at h
        by_cases hi : i = 1
        · subst hi
          rw [Header.parameter_cons, if_neg (Ne.symm hl),
            Header.parameter_congr (headerStep_one h)]
          exact hrel
        · rw [headerStep_of_ne hi h]
          exact hcons _ _
      · have hnull : k = .null := hint
        rw [hnull] at h
        cases h

scoped instance lawfulCosetHeader : LawfulCosetHeader where
  parameter {h h' v v' l} hv hsim hfrom hl := by
    cases hv
    obtain ⟨ws, rfl, hsim⟩ := hsim
    have hentries : headerOfEntries ws = .ok h' := hfrom
    have hne : l ≠ .int 1 := by
      rintro rfl
      rcases hl with hlt | hgt
      · exact absurd hlt (by decide)
      · exact absurd hgt (by decide)
    obtain ⟨alg, rest⟩ := h
    cases alg with
    | none => exact parameter_headerOfEntries hsim hentries hne
    | some alg =>
      obtain ⟨k, w, ws, rfl, hk, -, hsim⟩ := hsim
      obtain ⟨header, hheader, hentries⟩ := bind_eq_ok hentries
      have hrel := parameter_headerOfEntries hsim hheader hne
      have hkey : k = .int 1 := hk
      rw [hkey] at hentries
      rw [Header.parameter_congr (headerStep_one hentries)]
      exact hrel

end Reference

/-! ## certificate chains on the wire -/

namespace X5Chain

section
variable [X509Cert]

/-- a chain of certificates that a builder was given in DER -/
def ofDers (ders : List Bytes) : Except String X5Chain := do
  let certs ← ders.mapM certificateFromDer
  build certs

theorem der_certificateFromDer {bytes : Bytes} {cert : CertificateWithDer}
    (h : certificateFromDer bytes = .ok cert) : cert.der = bytes := by
  unfold certificateFromDer at h
  split at h
  · cases h
    rfl
  · cases h

theorem ders_mapM {ders : List Bytes} {certs : List CertificateWithDer}
    (h : ders.mapM certificateFromDer = .ok certs) : certs.map CertificateWithDer.der = ders := by
  induction ders generalizing certs with
  | nil =>
    cases h
    rfl
  | cons der ders ih =>
    rw [List.mapM_cons] at h
    obtain ⟨cert, hcert, h⟩ := bind_eq_ok h
    obtain ⟨certs', hcerts, h⟩ := bind_eq_ok h
    cases h
    rw [List.map_cons, der_certificateFromDer hcert, ih hcerts]

theorem fromCbor_array (ders : List Bytes) :
    fromCbor (.array (ders.map .bytes)) = ofDers ders := by
  rw [fromCbor, ofDers, List.mapM_map]
  rfl

theorem build_eq_ok {certs : List CertificateWithDer} {chain : X5Chain}
    (h : build certs = .ok chain) : chain.certs.toList = certs := by
  unfold build at h
  split at h
  · next v hv =>
    cases h
    exact (NonEmptyVec.tryFrom_eq_some.mp hv).symm
  · cases h

/-- **A chain is read as it was built.** -/
theorem fromCbor_intoCbor {ders : List Bytes} {chain : X5Chain} (h : ofDers ders = .ok chain) :
    fromCbor chain.intoCbor = .ok chain := by
  obtain ⟨certs, hcerts, hbuild⟩ := bind_eq_ok h
  have hlist := build_eq_ok hbuild
  have hders := ders_mapM hcerts
  rw [← hlist] at hders
  unfold intoCbor
  split
  · next cert hcert =>
    rw [hcert] at hders
    rw [← hders] at h
    obtain ⟨certs, hcerts, hbuild⟩ := bind_eq_ok h
    rw [List.map_singleton, List.mapM_cons] at hcerts
    obtain ⟨cert', hcert', hcerts⟩ := bind_eq_ok hcerts
    cases hcerts
    rw [fromCbor, hcert']
    exact hbuild
  · rw [← h, ← hders, ← fromCbor_array, List.map_map]
    rfl

theorem mapM_similar {vs ws : List Value} {certs : List CertificateWithDer}
    (hsim : Value.SimilarList vs ws)
    (h : vs.mapM (fun
      | .bytes bytes => certificateFromDer bytes
      | _ => .error "expected x509 certificate in the x5chain to be a cbor encoded bytestring") =
        .ok certs) : ws = vs := by
  induction vs generalizing ws certs with
  | nil => exact hsim
  | cons v vs ih =>
    obtain ⟨w, ws, rfl, hv, hsim⟩ := hsim
    rw [List.mapM_cons] at h
    obtain ⟨cert, hcert, h⟩ := bind_eq_ok h
    obtain ⟨certs', hcerts, -⟩ := bind_eq_ok h
    rw [ih hsim hcerts]
    cases v with
    | bytes bytes =>
      have hbytes : w = .bytes bytes := hv
      rw [hbytes]
    | _ => cases hcert

/-- **The data item of a chain is kept on the wire.** -/
theorem similar_of_fromCbor {v w : Value} {chain : X5Chain} (h : fromCbor v = .ok chain)
    (hsim : v.Similar w) : w = v := by
  cases v with
  | bytes bytes => exact hsim
  | array x509s =>
    obtain ⟨ws, rfl, hlist⟩ := hsim
    obtain ⟨certs, hcerts, -⟩ := bind_eq_ok h
    rw [mapM_similar hlist hcerts]
  | _ => cases h

end

end X5Chain

/-! ## what stays with a signature -/

section
variable [Ciborium] [Coset] [CosetHeader] [FaithfulCiborium] [LawfulCoset]

/-- the unprotected header of a `COSE_Sign1`, on the wire -/
theorem sign1_unprotected {c c' : MaybeTagged CoseSign1} {v w : Value} (hv : toValue c = .ok v)
    (hsim : v.Similar w) (hof : ofValue w = .ok c') :
    ∃ u u', CosetHeader.toCborValue c.inner.unprotected = .ok u ∧ u.Similar u' ∧
      CosetHeader.fromCborValue u' = .ok c'.inner.unprotected := by
  obtain ⟨-, x, x', hx, hinside, hfrom⟩ := maybeTagged_roundTrip (by decide) (by decide)
    (fun c v h => structureValue_array (LawfulCoset.sign1ToCborValue_ok.mp h)) hv hsim hof
  obtain ⟨bstr, -, hx⟩ := bind_eq_ok (LawfulCoset.sign1ToCborValue_ok.mp hx)
  obtain ⟨u, hu, hx⟩ := bind_eq_ok hx
  cases hx
  obtain ⟨ws, rfl, hlist⟩ := hinside
  obtain ⟨w₁, ws, rfl, rfl, hlist⟩ := hlist
  obtain ⟨u', ws, rfl, hsame, hlist⟩ := hlist
  obtain ⟨w₃, ws, rfl, hpayload, hlist⟩ := hlist
  obtain ⟨w₄, ws, rfl, rfl, rfl⟩ := hlist
  have hw : w₃ = payloadValue c.inner.payload := by
    generalize c.inner.payload = payload at hpayload ⊢
    cases payload <;> exact hpayload
  rw [hw] at hfrom
  obtain ⟨p, header, -, hheader, hinner⟩ := LawfulCoset.sign1FromCborValue_ok.mp hfrom
  rw [hinner]
  exact ⟨u, u', hu, hsame, hheader⟩

variable [LawfulCosetHeader]

/-- what a `COSE_Sign1` that is read keeps, with the parameters of its unprotected header -/
structure ParametersKept (c c' : MaybeTagged CoseSign1) : Prop extends SignatureKept c c' where
  parameter : ∀ l : Label, l.Uncommon →
    Option.Rel Value.Similar (c.inner.unprotected.parameter l) (c'.inner.unprotected.parameter l)

theorem decodes_parameters : Decodes ParametersKept := by
  intro c v w c' hv hsim hw
  obtain ⟨u, u', hu, hsame, hheader⟩ := sign1_unprotected hv hsim hw
  exact ⟨decodes_sign1 hv hsim hw, fun l hl => LawfulCosetHeader.parameter hu hsame hheader hl⟩

variable [X509Cert] [P256] [Sha2] [Rfc3339]

/-- the label of a certificate chain -/
def x5chainLabel : Label := .int X5CHAIN_COSE_HEADER_LABEL

theorem x5chainLabel_uncommon : x5chainLabel.Uncommon := .inr (by decide)

/-- a signature that carries a certificate chain, and is good under the chain's leaf -/
structure SignedBy (x5chain : X5Chain) (c : MaybeTagged CoseSign1) : Prop where
  coherent : c.inner.protectedHeader.Coherent
  chain : ∃ v, c.inner.unprotected.parameter x5chainLabel = some v ∧ X5Chain.fromCbor v = .ok x5chain
  verifies : ∃ key, x5chain.endEntityPublicKeyWithOid Oid.SECP_256_R_1 = .ok key ∧
    verify c (p256Verifier key) none none = .success

/-- **A signature is kept when it is written and read**, with its chain. -/
theorem SignedBy.kept {x5chain : X5Chain} {c c' : MaybeTagged CoseSign1} (h : SignedBy x5chain c)
    (hkept : ParametersKept c c') : SignedBy x5chain c' := by
  obtain ⟨hheader, hcoherent⟩ := hkept.protectedHeader h.coherent
  obtain ⟨v, hv, hchain⟩ := h.chain
  obtain ⟨key, hkey, hverify⟩ := h.verifies
  refine ⟨hcoherent, ?_, key, hkey, ?_⟩
  · have hrel := hkept.parameter x5chainLabel x5chainLabel_uncommon
    rw [hv] at hrel
    generalize c'.inner.unprotected.parameter x5chainLabel = o at hrel ⊢
    cases hrel with
    | some hsim => exact ⟨_, rfl, by rw [X5Chain.similar_of_fromCbor hchain hsim, hchain]⟩
  · rw [verify_kept hkept.payload hkept.signature hheader]
    exact hverify

/-- **The reader finds the chain, and the signature good.** -/
theorem SignedBy.accepted {x5chain : X5Chain} {document : DeviceResponse.Document}
    (h : SignedBy x5chain document.issuerSigned.issuerAuth) :
    Reader.issuerX5Chain document = .ok x5chain ∧
      issuerAuthentication x5chain document.issuerSigned = .ok () := by
  obtain ⟨v, hv, hchain⟩ := h.chain
  refine ⟨?_, issuerAuthentication_eq_ok.mpr h.verifies⟩
  have hfind : (document.issuerSigned.issuerAuth.inner.unprotected.rest.find? fun e =>
      e.1 = .int X5CHAIN_COSE_HEADER_LABEL).map Prod.snd = some v := hv
  rw [Reader.issuerX5Chain, hfind]
  show (X5Chain.fromCbor v).mapError _ = _
  rw [hchain]
  rfl

/-! ## credentials in circulation -/

variable [P384] [P521]

/-- a credential that was prepared for ES256, and stored any number of times -/
inductive PreparedMdoc.Prepared : PreparedMdoc → Prop where
  | finished {docType : String} {issuerNamespaces : IssuerNamespaces} {validityInfo : ValidityInfo}
      {digestAlgorithm : DigestAlgorithm} {deviceKeyInfo : DeviceKeyInfo}
      {valueDigests : BTreeMap String DigestIds} {m : PreparedMdoc}
      (h : finishPreparation docType issuerNamespaces validityInfo digestAlgorithm deviceKeyInfo
        .ES256 valueDigests = .ok m) : Prepared m
  | stored {m m' : PreparedMdoc} {bytes : Bytes} (h : Prepared m) (henc : toVec m = .ok bytes)
      (hdec : fromSlice PreparedMdoc bytes = .ok m') : Prepared m'

/-- what is asked for in a credential that is being prepared, and where its chain will go -/
structure PreparedMdoc.Awaits (m : PreparedMdoc) : Prop where
  consistent : m.Consistent
  algorithm : m.preparedSig.algorithm = some .ES256
  chainless : m.preparedSig.coseSign1.inner.unprotected.parameter x5chainLabel = none

theorem PreparedMdoc.Prepared.awaits {m : PreparedMdoc} (h : m.Prepared) : m.Awaits := by
  induction h with
  | finished h =>
    obtain ⟨hconsistent, halgorithm⟩ := finishPreparation_consistent h
    refine ⟨hconsistent, halgorithm, ?_⟩
    obtain ⟨mso24, msoBytes, -, -, hsig⟩ := finishPreparation_signs h
    rw [hsig]
    rfl
  | @stored m m' bytes _ henc hdec ih =>
    obtain ⟨hconsistent, halgorithm⟩ := ih.consistent.stored henc hdec
    refine ⟨hconsistent, halgorithm.trans ih.algorithm, ?_⟩
    have hkept := ((decodes_preparedSig decodes_parameters).fromSlice henc hdec).2
    have hrel := hkept.parameter x5chainLabel x5chainLabel_uncommon
    rw [ih.chainless] at hrel
    generalize m'.preparedSig.coseSign1.inner.unprotected.parameter x5chainLabel = o at hrel ⊢
    cases hrel
    rfl

end

namespace Device

section
variable [Ciborium] [Coset] [CosetHeader] [FaithfulCiborium] [LawfulCoset] [LawfulCosetHeader]
  [X509Cert] [P256] [P384] [P521] [Sha2] [Rfc3339] [LawfulStandardBase64]

/-- a document of a credential that its issuer completed with this chain, and that was stored and
restored any number of times -/
inductive Document.Issued (x5chain : X5Chain) : Document → Prop where
  | loaded {m : PreparedMdoc} {ders : List Bytes} {signature : Bytes} {mdoc : Mdoc} (id : Uuid)
      (hprepared : m.Prepared) (hchain : X5Chain.ofDers ders = .ok x5chain)
      (hcomplete : m.complete x5chain signature = .ok mdoc) :
      Issued x5chain (Document.ofMdoc id mdoc)
  | restored {d d' : Document} {s : String} (h : Issued x5chain d)
      (hstored : Stringify.stringify d = .ok s) (hrestored : Stringify.parse Document s = .ok d') :
      Issued x5chain d'

theorem decodes_storedDocument {R : MaybeTagged CoseSign1 → MaybeTagged CoseSign1 → Prop}
    (hR : Decodes R) : Decodes fun d d' : Document => R d.issuerAuth d'.issuerAuth := by
  intro d v w d' hv hsim hw
  obtain ⟨fields, hfields, hw⟩ := bind_eq_ok hw
  obtain ⟨id, -, hw⟩ := bind_eq_ok hw
  obtain ⟨issuerAuth, hauth, hw⟩ := bind_eq_ok hw
  obtain ⟨mso, -, hw⟩ := bind_eq_ok hw
  obtain ⟨namespaces, -, hw⟩ := bind_eq_ok hw
  cases hw
  have hnd : ["id", "issuer_auth", "mso", "namespaces"].Nodup := by decide
  exact Fields.required_decodes hR hv hsim hfields hnd (by simp) hauth

/-- what is completed carries the chain, and is signed under its leaf -/
theorem signedBy_complete {m : PreparedMdoc} {x5chain : X5Chain} {ders : List Bytes}
    {signature : Bytes} {mdoc : Mdoc} (hawaits : m.Awaits)
    (hchain : X5Chain.ofDers ders = .ok x5chain)
    (hcomplete : m.complete x5chain signature = .ok mdoc) : SignedBy x5chain mdoc.issuerAuth := by
  obtain ⟨algorithm, halgorithm, hverify, -, -, -, -, hprotected, -, -⟩ := m.complete_ok hcomplete
  rw [hawaits.algorithm] at halgorithm
  cases halgorithm
  have haccepted := hawaits.consistent.accepted hawaits.algorithm
    (verifyRemoteSignature_es256 hverify) hcomplete
  obtain ⟨hissuer, -⟩ := haccepted ⟨none, mdoc.issuerAuth⟩ rfl
  refine ⟨?_, ⟨x5chain.intoCbor, ?_, X5Chain.fromCbor_intoCbor hchain⟩,
    issuerAuthentication_eq_ok.mp hissuer⟩
  · rw [hprotected]
    exact hawaits.consistent.protectedHeader
  · have hchainless : (m.preparedSig.finalize signature).inner.unprotected.parameter x5chainLabel =
        none := hawaits.chainless
    unfold PreparedMdoc.complete at hcomplete
    rw [hawaits.algorithm] at hcomplete
    obtain ⟨u, -, hcomplete⟩ := bind_eq_ok hcomplete
    cases hcomplete
    show Header.parameter ⟨_, _ ++ [(x5chainLabel, x5chain.intoCbor)]⟩ x5chainLabel = _
    rw [Header.parameter_append hchainless, Header.parameter_cons, if_pos rfl]

/-- **Every credential in circulation is signed**, and carries its chain. -/
theorem Document.Issued.signedBy {x5chain : X5Chain} {d : Document} (h : d.Issued x5chain) :
    SignedBy x5chain d.issuerAuth := by
  induction h with
  | loaded id hprepared hchain hcomplete => exact signedBy_complete hprepared.awaits hchain hcomplete
  | @restored d d' s h hstored hrestored ih =>
    obtain ⟨data, hdata, hs⟩ := bind_eq_ok hstored
    cases hs
    rw [Stringify.parse, LawfulStandardBase64.decode_encode, ok_bind] at hrestored
    exact ih.kept ((decodes_storedDocument decodes_parameters).fromSlice (mapError_eq_ok hdata)
      (mapError_eq_ok hrestored))

/-! ## in a response -/

/-- **A document of an answer is one that is held**, with its issuer's signature. -/
theorem AnswersCall.presents {sm : SessionManager} {ops : List Operation} {n : ℕ} {plaintext : Bytes}
    (h : AnswersCall sm ops n plaintext) {response : DeviceResponse}
    (hread : fromSlice DeviceResponse plaintext = .ok response)
    {decoded : DeviceResponse.Document} (hdecoded : decoded ∈ response.documentList) :
    ∃ held, sm.documents.toMap[decoded.docType]? = some held ∧
      ParametersKept held.issuerAuth decoded.issuerSigned.issuerAuth := by
  obtain ⟨requests, permitted, after, rest, -, -, hcomplete, hbytes, -⟩ := h
  have hkept := (decodes_presented (decodes_issuerAuth decodes_parameters)).documentList.fromSlice
    hbytes hread
  rw [PreparedDeviceResponse.documentList_finalizeResponse hcomplete] at hkept
  have hkept := List.forall₂_map_left_iff.mp hkept
  obtain ⟨i, hi, rfl⟩ := List.getElem_of_mem hdecoded
  have hi' := hkept.length_eq ▸ hi
  have hdoc := hkept.get hi' hi
  rw [List.get_eq_getElem, List.get_eq_getElem] at hdoc
  have hmem := List.mem_reverse.mp (List.of_mem_zip (List.getElem_mem hi')).1
  rw [List.get_eq_getElem] at hmem
  generalize ((sm.prepares requests permitted).pairing (submitted after))[i] = e at hdoc hmem
  obtain ⟨hdocType, hauth⟩ := hdoc
  obtain ⟨namespaces, -, hprepared⟩ := mem_preparedDocuments.mp hmem
  obtain ⟨held, algorithm, deviceNamespaces, payload, cose, hheld, -, -, -, -, hd⟩ :=
    prepareDocument_eq_some.mp hprepared
  have hdocType : (response.documentList[i]).docType = e.1.docType := hdocType
  have hauth : ParametersKept e.1.issuerSigned.issuerAuth
      (response.documentList[i]).issuerSigned.issuerAuth := hauth
  rw [congrArg (fun d : PreparedDocument => d.issuerSigned.issuerAuth) hd] at hauth
  rw [hdocType]
  exact ⟨held, hheld, hauth⟩

end

end Device

namespace Reader

section
variable [Ciborium] [Coset] [Rfc3339] [X509Cert] [P256] [Sha2] [Clock]

/-- the verdict on the issuer, when the signature is good -/
theorem validateResponse_issuerAuthentication {sessionTranscript : SessionTranscript180135}
    {trustAnchorRegistry : TrustAnchorRegistry} {x5chain : X5Chain}
    {document : DeviceResponse.Document} {namespaces : BTreeMap String Json}
    (h : issuerAuthentication x5chain document.issuerSigned = .ok ()) :
    (validateResponse sessionTranscript trustAnchorRegistry x5chain document
      namespaces).issuerAuthentication = .Valid ↔
      ValidationRuleset.Mdl.validate x5chain trustAnchorRegistry = [] := by
  rw [validateResponse, validateIssuer, h]
  cases ValidationRuleset.Mdl.validate x5chain trustAnchorRegistry with
  | nil => exact iff_of_true rfl rfl
  | cons e errors =>
    constructor
    · intro hvalid
      cases hvalid
    · intro hnil
      cases hnil

end

end Reader

/-! ## in a run -/

namespace System

section
variable [LawfulCiborium] [FaithfulCiborium] [Coset] [CosetHeader] [LawfulCoset]
  [LawfulCosetHeader] [Rfc3339] [X509Cert] [P256] [P384] [P521] [Sha2] [Clock]
  [LawfulStandardBase64]

/-- **The verdict on an issued credential is that on its chain.**  The held mDL was prepared, stored
any number of times, completed with a chain, loaded, and stored and restored any number of times.  In
every run of two sessions that share their keys, with the ideal AEAD and whatever bytes arrive: a
message that the reader is handed is rejected, or its verdict on the issuer is valid exactly when the
chain that the issuer completed the credential with is valid under the reader's own trust anchors. -/
theorem issued_verdict (sealWith : SessionKey → Nonce → Bytes → Option Bytes) {p : Pairing}
    (hidle : p.device.Idle) {held : Device.Document} {x5chain : X5Chain}
    (hheld : p.device.documents.toMap[Reader.MDL_DOC_TYPE]? = some held)
    (hissued : held.Issued x5chain) :
    Run.Recorded (System.step (idealAead sealWith)) (System.start p.reader p.device) fun _ s =>
      letI := idealAead sealWith s.log
      ∀ message handled, s.reader.handleResponse message = some handled →
        (∃ kind e, handled.1 = .error kind e) ∨
          (handled.1.issuerAuthentication = .Valid ↔
            ValidationRuleset.Mdl.validate x5chain p.reader.trustAnchorRegistry = []) := by
  refine (recorded_readerFixed sealWith hidle).mono fun as s h => ?_
  obtain ⟨h, hreader⟩ := h
  let _ := idealAead sealWith s.log
  intro message handled hhandled
  refine (h.handled hhandled).imp_right fun hanswer => ?_
  obtain ⟨n, plaintext, response, document, x5chain', namespaces, -, hanswers, hread, hparse,
    hdocument, htype, hvalid⟩ := hanswer
  obtain ⟨held', hheld', hparameters⟩ := hanswers.presents hread hdocument
  rw [htype, hheld] at hheld'
  cases hheld'
  obtain ⟨hchain, hverifies⟩ := (hissued.signedBy.kept hparameters).accepted
  obtain ⟨-, hchain', -⟩ := Reader.parse_ok hparse
  rw [hchain] at hchain'
  cases hchain'
  have hfixed := (s.reader.decryptResponse_fixed message).trans hreader
  have hanchors : (s.reader.decryptResponse message).2.trustAnchorRegistry =
      p.reader.trustAnchorRegistry := congrArg Prod.snd hfixed
  rw [hvalid, hanchors]
  exact Reader.validateResponse_issuerAuthentication hverifies

end

section
open scoped Reference

namespace Sample

/-- a credential that was prepared, completed and loaded, with its chain -/
def issued : Except String (X5Chain × Device.Document) := do
  let m ← PreparedMdoc.Sample.prepared
  let x5chain ← X5Chain.ofDers [Reference.signerDer]
  let mdoc ← m.complete x5chain PreparedMdoc.Sample.signature
  .ok (x5chain, Device.Document.ofMdoc Device.Sample.readableDocument.id mdoc)

theorem issued_of_eq_ok {x5chain : X5Chain} {held : Device.Document}
    (h : issued = .ok (x5chain, held)) :
    held.Issued x5chain := by
  obtain ⟨m, hm, h⟩ := bind_eq_ok h
  obtain ⟨chain, hchain, h⟩ := bind_eq_ok h
  obtain ⟨mdoc, hmdoc, h⟩ := bind_eq_ok h
  cases h
  exact .loaded _ (.finished hm) hchain hmdoc

end Sample

/-- A credential is issued, presented, and valid under its chain. -/
theorem issued_verdict_sample : ∃ x5chain held s message handled, held.Issued x5chain ∧
    Sample.after (Sample.holding held) Sample.answering = some s ∧
    letI := idealAead Sample.sealWith s.log
    s.reader.handleResponse message = some handled ∧
      handled.1.issuerAuthentication = .Valid ∧
      ValidationRuleset.Mdl.validate x5chain Reader.Sample.trustedIssuers = [] := by
  have hcheck : (Sample.issued.toOption.any fun i => (Sample.outcomeIn (Sample.holding i.2)).any
      fun outcome => decide (outcome.issuerAuthentication = .Valid)) = true := by
    decide +kernel
  obtain ⟨⟨x5chain, held⟩, hissued, hcheck⟩ := exists_ok_of_any hcheck
  obtain ⟨s, message, handled, hs, hhandled, hcheck⟩ := Sample.exists_handled hcheck
  have hcirculates := Sample.issued_of_eq_ok hissued
  have hheld : (Sample.holding held).device.documents.toMap[Reader.MDL_DOC_TYPE]? = some held :=
    Std.ExtTreeMap.getElem?_insert_self
  have hvalid : handled.1.issuerAuthentication = .Valid := of_decide_eq_true hcheck
  refine ⟨x5chain, held, s, message, handled, hcirculates, hs, hhandled, hvalid, ?_⟩
  have hverdict := issued_verdict Sample.sealWith (p := Sample.holding held)
    (Sample.holding_idle held) hheld hcirculates Sample.answering s hs message handled hhandled
  rcases hverdict with ⟨kind, e, herror⟩ | hiff
  · rw [herror] at hvalid
    cases hvalid
  · exact hiff.mp hvalid

end

end System

end Isomdl
