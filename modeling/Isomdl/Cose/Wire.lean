import Isomdl.Cose.Mac0

/-!
# COSE structures on the wire (`cose.rs`, `cose/sign1.rs`, `cose/mac0.rs`)

The headers of `coset` are a codec (`CosetHeader`), and `LawfulCoset` says how RFC 8152 puts a
structure and its authenticated bytes together from them.  What a signer prepared is then what a
verifier checks, also after the structure went over the wire.

* `sign1_roundTrip`, `mac0_roundTrip`   what a decoded structure keeps of the one that was encoded;
* `verify_kept`                         a verification says the same of both;
* `CoseSign1Builder.reads`, `CoseMac0Builder.reads`
                                        what is built can be written and read.
-/

set_option linter.unusedSectionVars false

namespace Isomdl

open Cbor

/-! ## what the builders build -/

/-- a number that stands for no named algorithm and is not for private use -/
def Algorithm.Registered : Algorithm → Prop
  | .other id => id ∉ [-7, -35, -36, -8, 5] ∧ -65536 ≤ id
  | _ => True

/-- what a `HeaderBuilder` builds: an algorithm is assigned, and no other parameter has its label -/
structure BuiltHeader where
  header : Header
  alg : header.alg = none ∨ ∃ a : Algorithm, a.Registered ∧ header.alg = some (.assigned a)
  rest : ∀ e ∈ header.rest, e.1 ≠ .int 1

/-- `CoseSign1Builder` -/
structure CoseSign1Builder where
  protectedHeader : BuiltHeader
  unprotected : BuiltHeader
  payload : Option Bytes
  signature : Bytes

def CoseSign1Builder.build (b : CoseSign1Builder) : CoseSign1 :=
  ⟨⟨none, b.protectedHeader.header⟩, b.unprotected.header, b.payload, b.signature⟩

/-- `CoseMac0Builder` -/
structure CoseMac0Builder where
  protectedHeader : BuiltHeader
  unprotected : BuiltHeader
  payload : Option Bytes
  tag : Bytes

def CoseMac0Builder.build (b : CoseMac0Builder) : CoseMac0 :=
  ⟨⟨none, b.protectedHeader.header⟩, b.unprotected.header, b.payload, b.tag⟩

/-! ## the structures of RFC 8152 -/

/-- `coset::Header`: `to_cbor_value` and `from_cbor_value` -/
class CosetHeader where
  toCborValue : Header → Except String Value
  fromCborValue : Value → Except String Header

section
variable [Ciborium] [CosetHeader]

/-- `ProtectedHeader::cbor_bstr`: the bytes that were decoded, nothing for an empty header, or its
map -/
def ProtectedHeader.cborBstr (p : ProtectedHeader) : Except String Bytes :=
  match p.originalData with
  | some bytes => .ok bytes
  | none =>
    if p.header = Header.empty then .ok []
    else Ciborium.intoWriter <$> CosetHeader.toCborValue p.header

/-- `ProtectedHeader::from_cbor_bstr` -/
def ProtectedHeader.fromCborBstr (bytes : Bytes) : Except String ProtectedHeader :=
  if bytes = [] then .ok ⟨some bytes, Header.empty⟩
  else do
    let v ← Ciborium.fromReader bytes
    let header ← CosetHeader.fromCborValue v
    .ok ⟨some bytes, header⟩

/-- a payload, or its absence -/
def payloadValue : Option Bytes → Value
  | some payload => .bytes payload
  | none => .null

/-- the four fields of a structure with one signature or tag -/
def structureValue (p : ProtectedHeader) (unprotected : Header) (payload : Option Bytes)
    (authenticator : Bytes) : Except String Value := do
  let p ← p.cborBstr
  let unprotected ← CosetHeader.toCborValue unprotected
  .ok (.array [.bytes p, unprotected, payloadValue payload, .bytes authenticator])

end

/-- `ciborium` reads back what it wrote, up to floats and bignums -/
class FaithfulCiborium [Ciborium] : Prop where
  similar {v v' : Value} : Ciborium.fromReader (Ciborium.intoWriter v) = .ok v' → v.Similar v'
  intoWriter_ne_nil (v : Value) : Ciborium.intoWriter v ≠ []

/-- `coset` follows RFC 8152 where its headers can be encoded: the authenticated structures, the
encoded structures, and the algorithm of a header -/
class LawfulCoset [Ciborium] [Coset] [CosetHeader] : Prop where
  sigStructureData_eq {p : ProtectedHeader} {bstr aad payload : Bytes} : p.cborBstr = .ok bstr →
    Coset.sigStructureData .coseSign1 p none aad payload =
      Ciborium.intoWriter (.array [.text "Signature1", .bytes bstr, .bytes aad, .bytes payload])
  macStructureData_eq {p : ProtectedHeader} {bstr aad payload : Bytes} : p.cborBstr = .ok bstr →
    Coset.macStructureData .coseMac0 p aad payload =
      Ciborium.intoWriter (.array [.text "MAC0", .bytes bstr, .bytes aad, .bytes payload])
  sign1ToCborValue_ok {c : CoseSign1} {v : Value} : Coset.sign1ToCborValue c = .ok v ↔
    structureValue c.protectedHeader c.unprotected c.payload c.signature = .ok v
  sign1FromCborValue_ok {bstr : Bytes} {u : Value} {payload : Option Bytes} {signature : Bytes}
    {c : CoseSign1} :
    Coset.sign1FromCborValue (.array [.bytes bstr, u, payloadValue payload, .bytes signature]) =
        .ok c ↔
      ∃ p unprotected, ProtectedHeader.fromCborBstr bstr = .ok p ∧
        CosetHeader.fromCborValue u = .ok unprotected ∧ c = ⟨p, unprotected, payload, signature⟩
  mac0ToCborValue_ok {c : CoseMac0} {v : Value} : Coset.mac0ToCborValue c = .ok v ↔
    structureValue c.protectedHeader c.unprotected c.payload c.tag = .ok v
  mac0FromCborValue_ok {bstr : Bytes} {u : Value} {payload : Option Bytes} {tag : Bytes}
    {c : CoseMac0} :
    Coset.mac0FromCborValue (.array [.bytes bstr, u, payloadValue payload, .bytes tag]) =
        .ok c ↔
      ∃ p unprotected, ProtectedHeader.fromCborBstr bstr = .ok p ∧
        CosetHeader.fromCborValue u = .ok unprotected ∧ c = ⟨p, unprotected, payload, tag⟩
  header_alg {h : BuiltHeader} {v v' : Value} {h' : Header} :
    CosetHeader.toCborValue h.header = .ok v → v.Similar v' →
      CosetHeader.fromCborValue v' = .ok h' → h'.alg = h.header.alg

/-! ## decoding what was encoded -/

section
variable [Ciborium] [Coset] [CosetHeader] [FaithfulCiborium] [LawfulCoset]

/-- **The bytes of a built protected header decode to its algorithm.** -/
theorem fromCborBstr_cborBstr {h : BuiltHeader} {bstr : Bytes} {p : ProtectedHeader}
    (hbstr : ProtectedHeader.cborBstr ⟨none, h.header⟩ = .ok bstr)
    (hp : ProtectedHeader.fromCborBstr bstr = .ok p) :
    p.cborBstr = .ok bstr ∧ p.header.alg = h.header.alg := by
  unfold ProtectedHeader.cborBstr at hbstr
  unfold ProtectedHeader.fromCborBstr at hp
  dsimp only at hbstr
  by_cases hempty : h.header = Header.empty
  · rw [if_pos hempty] at hbstr
    cases hbstr
    rw [if_pos rfl] at hp
    cases hp
    exact ⟨rfl, by rw [hempty]⟩
  · rw [if_neg hempty] at hbstr
    cases hv : CosetHeader.toCborValue h.header with
    | error e =>
      rw [hv] at hbstr
      cases hbstr
    | ok v =>
      rw [hv] at hbstr
      cases hbstr
      rw [if_neg (FaithfulCiborium.intoWriter_ne_nil v)] at hp
      cases hread : Ciborium.fromReader (Ciborium.intoWriter v) with
      | error e =>
        rw [hread] at hp
        cases hp
      | ok v' =>
        rw [hread, ok_bind] at hp
        cases hheader : CosetHeader.fromCborValue v' with
        | error e =>
          rw [hheader] at hp
          cases hp
        | ok header =>
          rw [hheader] at hp
          cases hp
          exact ⟨rfl, LawfulCoset.header_alg hv (FaithfulCiborium.similar hread) hheader⟩

/-- a structure that was encoded is still an array of its four fields -/
theorem similar_structureValue {p : ProtectedHeader} {unprotected : Header}
    {payload : Option Bytes} {authenticator : Bytes} {v w : Value}
    (hv : structureValue p unprotected payload authenticator = .ok v) (h : v.Similar w) :
    ∃ bstr u, p.cborBstr = .ok bstr ∧
      w = .array [.bytes bstr, u, payloadValue payload, .bytes authenticator] := by
  unfold structureValue at hv
  cases hp : p.cborBstr with
  | error e =>
    rw [hp] at hv
    cases hv
  | ok bstr =>
    rw [hp, ok_bind] at hv
    cases hu : CosetHeader.toCborValue unprotected with
    | error e =>
      rw [hu] at hv
      cases hv
    | ok u =>
      rw [hu] at hv
      cases hv
      obtain ⟨ws, rfl, hlist⟩ := h
      obtain ⟨w₁, ws, rfl, rfl, hlist⟩ := hlist
      obtain ⟨w₂, ws, rfl, -, hlist⟩ := hlist
      obtain ⟨w₃, ws, rfl, hpayload, hlist⟩ := hlist
      obtain ⟨w₄, ws, rfl, rfl, rfl⟩ := hlist
      have hw : w₃ = payloadValue payload := by
        cases payload <;> exact hpayload
      rw [hw]
      exact ⟨bstr, w₂, rfl, rfl⟩

/-- a structure that was encoded is an array, so a tag around it is its own -/
theorem maybeTagged_roundTrip {T : Type} {TAG : UInt64} (h2 : TAG ≠ 2) (h3 : TAG ≠ 3)
    {toCborValue : T → Except String Value} {fromCborValue : Value → Except String T}
    (harray : ∀ c v, toCborValue c = .ok v → ∃ vs, v = .array vs) {c c' : MaybeTagged T}
    {v w : Value}
    (henc : c.toCbor TAG toCborValue = .ok v) (hsim : v.Similar w)
    (hdec : MaybeTagged.ofCbor TAG fromCborValue w = .ok c') :
    c'.tagged = c.tagged ∧ ∃ u u', toCborValue c.inner = .ok u ∧ u.Similar u' ∧
      fromCborValue u' = .ok c'.inner := by
  unfold MaybeTagged.toCbor at henc
  cases hu : toCborValue c.inner with
  | error e =>
    rw [hu] at henc
    cases henc
  | ok u =>
    rw [hu] at henc
    have hv : (if c.tagged then .tag TAG u else u) = v := Except.ok.inj henc
    cases htag : c.tagged with
    | true =>
      rw [htag, if_pos rfl] at hv
      rw [← hv, Value.Similar] at hsim
      obtain ⟨u', hw, hinside⟩ := (hsim.resolve_left h2).resolve_left h3
      subst hw
      rw [MaybeTagged.ofCbor] at hdec
      cases hinner : fromCborValue u' with
      | error e =>
        rw [hinner] at hdec
        cases hdec
      | ok inner =>
        rw [hinner, ok_bind, if_pos rfl] at hdec
        cases hdec
        exact ⟨rfl, u, u', rfl, hinside, hinner⟩
    | false =>
      rw [htag, if_neg Bool.false_ne_true] at hv
      obtain ⟨vs, rfl⟩ := harray c.inner u hu
      rw [← hv] at hsim
      obtain ⟨ws, rfl, hlist⟩ := id hsim
      have hdec' : (⟨false, ·⟩) <$> fromCborValue (.array ws) = Except.ok c' := hdec
      cases hinner : fromCborValue (.array ws) with
      | error e =>
        rw [hinner] at hdec'
        cases hdec'
      | ok inner =>
        rw [hinner] at hdec'
        cases hdec'
        exact ⟨rfl, _, _, rfl, hsim, hinner⟩

theorem structureValue_array {p : ProtectedHeader} {unprotected : Header} {payload : Option Bytes}
    {authenticator : Bytes} {v : Value}
    (hv : structureValue p unprotected payload authenticator = .ok v) : ∃ vs, v = .array vs := by
  obtain ⟨bstr, u, -, rfl⟩ := similar_structureValue hv (Value.Similar.refl v)
  exact ⟨_, rfl⟩

/-- what a decoded structure keeps of the one that was encoded -/
structure Kept (p p' : ProtectedHeader) : Prop where
  alg : p'.header.alg = p.header.alg
  exists_bstr : ∃ bstr, p.cborBstr = .ok bstr ∧ p'.cborBstr = .ok bstr

theorem originalData_fromCborBstr {bytes : Bytes} {p : ProtectedHeader}
    (h : ProtectedHeader.fromCborBstr bytes = .ok p) : p.originalData = some bytes := by
  unfold ProtectedHeader.fromCborBstr at h
  split at h
  · cases h
    rfl
  · cases hread : Ciborium.fromReader bytes with
    | error e =>
      rw [hread] at h
      cases h
    | ok v =>
      rw [hread, ok_bind] at h
      cases hheader : CosetHeader.fromCborValue v with
      | error e =>
        rw [hheader] at h
        cases h
      | ok header =>
        rw [hheader] at h
        cases h
        rfl

/-- a protected header that a builder made, or that was read -/
def ProtectedHeader.Coherent (p : ProtectedHeader) : Prop :=
  (∃ h : BuiltHeader, p = ⟨none, h.header⟩) ∨
    ∃ bytes, p.originalData = some bytes ∧ fromCborBstr bytes = .ok p

/-- **A coherent header is kept when it is written and read**, and stays coherent. -/
theorem ProtectedHeader.Coherent.kept {p p' : ProtectedHeader} (h : p.Coherent) {bstr : Bytes}
    (hbstr : p.cborBstr = .ok bstr) (hp : fromCborBstr bstr = .ok p') : Kept p p' ∧ p'.Coherent := by
  refine ⟨?_, .inr ⟨bstr, originalData_fromCborBstr hp, hp⟩⟩
  cases h with
  | inl hbuilt =>
    obtain ⟨h, rfl⟩ := hbuilt
    obtain ⟨hbstr', halg⟩ := fromCborBstr_cborBstr hbstr hp
    exact ⟨halg, bstr, hbstr, hbstr'⟩
  | inr hread =>
    obtain ⟨bytes, horiginal, hfrom⟩ := hread
    have hbytes : p.cborBstr = .ok bytes := by
      unfold cborBstr
      rw [horiginal]
    rw [hbytes] at hbstr
    cases hbstr
    rw [hfrom] at hp
    cases hp
    exact ⟨rfl, _, hbytes, hbytes⟩

/-- what a `COSE_Sign1` that is read keeps of the one that was written -/
structure Sign1Kept (c c' : MaybeTagged CoseSign1) : Prop where
  tagged : c'.tagged = c.tagged
  payload : c'.inner.payload = c.inner.payload
  signature : c'.inner.signature = c.inner.signature
  protectedHeader : ∀ h : BuiltHeader, c.inner.protectedHeader = ⟨none, h.header⟩ →
    Kept c.inner.protectedHeader c'.inner.protectedHeader

/-- what a `COSE_Sign1` is read from -/
theorem sign1_decoded {c c' : MaybeTagged CoseSign1} {v w : Value} (hv : toValue c = .ok v)
    (hsim : v.Similar w) (hof : ofValue w = .ok c') :
    c'.tagged = c.tagged ∧ c'.inner.payload = c.inner.payload ∧
      c'.inner.signature = c.inner.signature ∧
      ∃ bstr, c.inner.protectedHeader.cborBstr = .ok bstr ∧
        ProtectedHeader.fromCborBstr bstr = .ok c'.inner.protectedHeader := by
  obtain ⟨htagged, u, u', hu, hinside, hfrom⟩ := maybeTagged_roundTrip (by decide) (by decide)
    (fun c v h => structureValue_array (LawfulCoset.sign1ToCborValue_ok.mp h)) hv hsim hof
  obtain ⟨bstr, unprotected, hbstr, rfl⟩ :=
    similar_structureValue (LawfulCoset.sign1ToCborValue_ok.mp hu) hinside
  obtain ⟨p, header, hp, -, hinner⟩ := LawfulCoset.sign1FromCborValue_ok.mp hfrom
  rw [hinner]
  exact ⟨htagged, rfl, rfl, bstr, hbstr, hp⟩

/-- **A `COSE_Sign1` keeps its tag, its payload, its signature and a built protected header.** -/
theorem sign1_kept {c c' : MaybeTagged CoseSign1} {v w : Value} (hv : toValue c = .ok v)
    (hsim : v.Similar w) (hof : ofValue w = .ok c') : Sign1Kept c c' := by
  obtain ⟨htagged, hpayload, hsignature, bstr, hbstr, hp⟩ := sign1_decoded hv hsim hof
  refine ⟨htagged, hpayload, hsignature, ?_⟩
  intro h hc
  have hcoherent : c.inner.protectedHeader.Coherent := .inl ⟨h, hc⟩
  exact (hcoherent.kept hbstr hp).1

theorem sign1_roundTrip {c c' : MaybeTagged CoseSign1} {bytes : Bytes}
    (henc : toVec c = .ok bytes) (hdec : fromSlice (MaybeTagged CoseSign1) bytes = .ok c') :
    Sign1Kept c c' := by
  obtain ⟨v, hv, rfl⟩ := toVec_eq_ok henc
  obtain ⟨w, hw, hof⟩ := fromSlice_eq_ok hdec
  exact sign1_kept hv (FaithfulCiborium.similar hw) hof

/-- what a `COSE_Mac0` that is read keeps of the one that was written -/
structure Mac0Kept (c c' : MaybeTagged CoseMac0) : Prop where
  tagged : c'.tagged = c.tagged
  payload : c'.inner.payload = c.inner.payload
  tag : c'.inner.tag = c.inner.tag
  protectedHeader : ∀ h : BuiltHeader, c.inner.protectedHeader = ⟨none, h.header⟩ →
    Kept c.inner.protectedHeader c'.inner.protectedHeader

/-- **A `COSE_Mac0` keeps its CBOR tag, its payload, its tag and a built protected header.** -/
theorem mac0_roundTrip {c c' : MaybeTagged CoseMac0} {bytes : Bytes}
    (henc : toVec c = .ok bytes) (hdec : fromSlice (MaybeTagged CoseMac0) bytes = .ok c') :
    Mac0Kept c c' := by
  obtain ⟨v, hv, rfl⟩ := toVec_eq_ok henc
  obtain ⟨w, hw, hof⟩ := fromSlice_eq_ok hdec
  obtain ⟨htagged, u, u', hu, hsim, hfrom⟩ := maybeTagged_roundTrip (by decide) (by decide)
    (fun c v h => structureValue_array (LawfulCoset.mac0ToCborValue_ok.mp h)) hv
    (FaithfulCiborium.similar hw) hof
  obtain ⟨bstr, unprotected, hbstr, rfl⟩ :=
    similar_structureValue (LawfulCoset.mac0ToCborValue_ok.mp hu) hsim
  obtain ⟨p, header, hp, -, hinner⟩ := LawfulCoset.mac0FromCborValue_ok.mp hfrom
  refine ⟨htagged, by rw [hinner], by rw [hinner], ?_⟩
  intro h hc
  have hcoherent : c.inner.protectedHeader.Coherent := .inl ⟨h, hc⟩
  rw [hinner]
  exact (hcoherent.kept hbstr hp).1

/-! ## what is authenticated is the same -/

theorem Kept.sigStructureData {p p' : ProtectedHeader} (h : Kept p p') (aad payload : Bytes) :
    Coset.sigStructureData .coseSign1 p' none aad payload =
      Coset.sigStructureData .coseSign1 p none aad payload := by
  obtain ⟨-, bstr, hp, hp'⟩ := h
  rw [LawfulCoset.sigStructureData_eq hp, LawfulCoset.sigStructureData_eq hp']

theorem Kept.macStructureData {p p' : ProtectedHeader} (h : Kept p p') (aad payload : Bytes) :
    Coset.macStructureData .coseMac0 p' aad payload =
      Coset.macStructureData .coseMac0 p aad payload := by
  obtain ⟨-, bstr, hp, hp'⟩ := h
  rw [LawfulCoset.macStructureData_eq hp, LawfulCoset.macStructureData_eq hp']

theorem Kept.algorithmMismatch {p p' : ProtectedHeader} (h : Kept p p') (algorithm : Algorithm) :
    algorithmMismatch p'.header algorithm = algorithmMismatch p.header algorithm := by
  unfold Isomdl.algorithmMismatch
  rw [h.alg]

/-- **A verification says the same of a structure and of what it decodes to.** -/
theorem verify_kept {S : Type} {c c' : MaybeTagged CoseSign1} {verifier : Verifier S}
    {detached aad : Option Bytes} (hpayload : c'.inner.payload = c.inner.payload)
    (hsignature : c'.inner.signature = c.inner.signature)
    (hkept : Kept c.inner.protectedHeader c'.inner.protectedHeader) :
    verify c' verifier detached aad = verify c verifier detached aad := by
  unfold verify verify.check
  rw [hkept.algorithmMismatch, hpayload, hsignature]
  simp only [hkept.sigStructureData]

theorem Mac0.verify_kept {c c' : MaybeTagged CoseMac0} {verifier : HmacSha256Key}
    {detached aad : Option Bytes} (hpayload : c'.inner.payload = c.inner.payload)
    (htag : c'.inner.tag = c.inner.tag)
    (hkept : Kept c.inner.protectedHeader c'.inner.protectedHeader) :
    Mac0.verify c' verifier detached aad = Mac0.verify c verifier detached aad := by
  unfold Mac0.verify Mac0.verify.check
  rw [hkept.algorithmMismatch, hpayload, htag]
  simp only [hkept.macStructureData]

end

/-! ## what is written can be read -/

/-- the values that a label takes: some bytes for a key identifier or an initialization vector, and
anything for a label without a field of its own -/
def Label.Takes : Label → Value → Prop
  | .text _, _ => True
  | .int i, v => ((4 ≤ i ∧ i ≤ 6) ∧ ∃ bytes, bytes ≠ [] ∧ v = .bytes bytes) ∨
      ((i < 1 ∨ 7 < i) ∧ -(2 ^ 63) ≤ i ∧ i < 2 ^ 63)

/-- a header without a label twice and with one initialization vector at most, whose values nest at
most `n` deep -/
structure BuiltHeader.Writable (h : BuiltHeader) (n : Nat) : Prop where
  distinct : (h.header.rest.map Prod.fst).Nodup
  vector : ¬ (.int 5 ∈ h.header.rest.map Prod.fst ∧ .int 6 ∈ h.header.rest.map Prod.fst)
  algorithm : ∀ id, h.header.alg = some (.assigned (.other id)) → id < 2 ^ 63
  takes : ∀ e ∈ h.header.rest, e.1.Takes e.2
  plain : ∀ e ∈ h.header.rest, e.2.Plain n

/-- `coset` writes such a header as one map, and reads it -/
class ReadsHeaders [CosetHeader] : Prop where
  reads {h : BuiltHeader} {n : Nat} : h.Writable n →
    ∃ v, CosetHeader.toCborValue h.header = .ok v ∧ v.Plain (n + 1) ∧
      ∃ h', CosetHeader.fromCborValue v = .ok h'

section
variable [LawfulCiborium] [Coset] [CosetHeader] [FaithfulCiborium] [LawfulCoset] [ReadsHeaders]

/-- the bytes of a protected header are read -/
theorem BuiltHeader.Writable.reads_cborBstr {h : BuiltHeader} (hw : h.Writable 13) :
    ∃ bstr p, ProtectedHeader.cborBstr ⟨none, h.header⟩ = .ok bstr ∧
      ProtectedHeader.fromCborBstr bstr = .ok p := by
  by_cases hempty : h.header = Header.empty
  · refine ⟨[], _, ?_, if_pos rfl⟩
    show (if h.header = Header.empty then _ else _) = _
    rw [if_pos hempty]
  · obtain ⟨v, hv, hplain, h', hread⟩ := ReadsHeaders.reads hw
    refine ⟨Ciborium.intoWriter v, ⟨some (Ciborium.intoWriter v), h'⟩, ?_, ?_⟩
    · show (if h.header = Header.empty then _ else _) = _
      rw [if_neg hempty, hv]
      rfl
    · rw [ProtectedHeader.fromCborBstr, if_neg (FaithfulCiborium.intoWriter_ne_nil v),
        LawfulCiborium.fromReader_intoWriter v (hplain.mono (by decide)), ok_bind, hread]
      rfl

/-- the four fields of a built structure are written, and its headers are read -/
theorem structureValue_reads {h unprotected : BuiltHeader} (hw : h.Writable 13)
    (hu : unprotected.Writable 13) (payload : Option Bytes) (authenticator : Bytes) :
    ∃ bstr u, structureValue ⟨none, h.header⟩ unprotected.header payload authenticator =
        .ok (.array [.bytes bstr, u, payloadValue payload, .bytes authenticator]) ∧
      (Value.array [.bytes bstr, u, payloadValue payload, .bytes authenticator]).Plain 15 ∧
      (∃ p, ProtectedHeader.fromCborBstr bstr = .ok p) ∧
      ∃ h', CosetHeader.fromCborValue u = .ok h' := by
  obtain ⟨bstr, p, hbstr, hp⟩ := hw.reads_cborBstr
  obtain ⟨u, hwritten, hplain, hread⟩ := ReadsHeaders.reads hu
  refine ⟨bstr, u, ?_, ?_, ⟨p, hp⟩, hread⟩
  · rw [structureValue, hbstr, ok_bind, hwritten]
    rfl
  · have hpayload : (payloadValue payload).Plain 14 := by
      cases payload <;> exact trivial
    rw [Value.plain_array]
    simp only [List.forall_mem_cons, List.not_mem_nil, IsEmpty.forall_iff, implies_true]
    exact ⟨Value.plain_bytes 14 _, hplain, hpayload, Value.plain_bytes 14 _, trivial⟩

omit [LawfulCiborium] [Coset] [CosetHeader] [FaithfulCiborium] [LawfulCoset] [ReadsHeaders] in
/-- an array is read with the tag, or without the tag, that it was written with -/
theorem MaybeTagged.reads {T : Type} {TAG : UInt64} (h2 : TAG ≠ 2) (h3 : TAG ≠ 3)
    {toCborValue : T → Except String Value} {fromCborValue : Value → Except String T} {c c' : T}
    {vs : List Value} (hwritten : toCborValue c = .ok (.array vs))
    (hplain : (Value.array vs).Plain 15) (hread : fromCborValue (.array vs) = .ok c')
    (tagged : Bool) :
    ∃ v, MaybeTagged.toCbor TAG toCborValue ⟨tagged, c⟩ = .ok v ∧ v.Plain 16 ∧
      MaybeTagged.ofCbor TAG fromCborValue v = .ok ⟨tagged, c'⟩ := by
  unfold MaybeTagged.toCbor
  rw [hwritten]
  cases tagged with
  | true =>
    refine ⟨_, rfl, ⟨h2, h3, hplain⟩, ?_⟩
    show MaybeTagged.ofCbor TAG fromCborValue (.tag TAG (.array vs)) = _
    rw [MaybeTagged.ofCbor, hread, ok_bind, if_pos rfl]
  | false =>
    refine ⟨_, rfl, hplain.succ, ?_⟩
    show MaybeTagged.mk false <$> fromCborValue (.array vs) = _
    rw [hread]
    rfl

/-- **What is built of writable headers is written, and read with its tag.** -/
theorem CoseSign1Builder.reads {b : CoseSign1Builder} (hw : b.protectedHeader.Writable 13)
    (hu : b.unprotected.Writable 13) (tagged : Bool) (signature : Bytes) :
    ∃ bytes c,
      toVec (⟨tagged, { b.build with signature := signature }⟩ : MaybeTagged CoseSign1) =
        .ok bytes ∧
      fromSlice (MaybeTagged CoseSign1) bytes = .ok c ∧ c.tagged = tagged := by
  obtain ⟨bstr, u, hvalue, hplain, ⟨p, hp⟩, h', hread⟩ :=
    structureValue_reads hw hu b.payload signature
  obtain ⟨v, hv, hplain, hof⟩ := MaybeTagged.reads (show (18 : UInt64) ≠ 2 by decide)
    (by decide) (c := { b.build with signature := signature })
    (LawfulCoset.sign1ToCborValue_ok.mpr hvalue) hplain
    (LawfulCoset.sign1FromCborValue_ok.mpr ⟨p, h', hp, hread, rfl⟩) tagged
  exact ⟨_, _, toVec_ok hv, LawfulCiborium.fromSlice_intoWriter hplain hof, rfl⟩

theorem CoseMac0Builder.reads {b : CoseMac0Builder} (hw : b.protectedHeader.Writable 13)
    (hu : b.unprotected.Writable 13) (tagged : Bool) (tag : Bytes) :
    ∃ bytes c,
      toVec (⟨tagged, { b.build with tag := tag }⟩ : MaybeTagged CoseMac0) = .ok bytes ∧
      fromSlice (MaybeTagged CoseMac0) bytes = .ok c ∧ c.tagged = tagged := by
  obtain ⟨bstr, u, hvalue, hplain, ⟨p, hp⟩, h', hread⟩ :=
    structureValue_reads hw hu b.payload tag
  obtain ⟨v, hv, hplain, hof⟩ := MaybeTagged.reads (show (17 : UInt64) ≠ 2 by decide)
    (by decide) (c := { b.build with tag := tag })
    (LawfulCoset.mac0ToCborValue_ok.mpr hvalue) hplain
    (LawfulCoset.mac0FromCborValue_ok.mpr ⟨p, h', hp, hread, rfl⟩) tagged
  exact ⟨_, _, toVec_ok hv, LawfulCiborium.fromSlice_intoWriter hplain hof, rfl⟩

end

end Isomdl
