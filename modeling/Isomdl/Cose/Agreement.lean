import Isomdl.Reference

/-!
# Preparing and verifying COSE structures agree (`cose/sign1.rs`, `cose/mac0.rs`)

A prepared structure exposes the bytes to authenticate; once it is finalized, the verifier accepts
exactly the authenticators that are good for these bytes, before and after the wire.  What is built
of headers without a repeated label goes over the wire.

* `sign1Agrees`, `mac0Agrees`   for either structure;
* `cose_agrees`                 for both.
-/

set_option linter.unusedSectionVars false

namespace Isomdl

open Cbor

/-- the signature parses as the verifier's, which accepts it over the message -/
def Verifier.Accepts {S : Type} (v : Verifier S) (message signature : Bytes) : Prop :=
  ∃ s, v.tryFrom signature = .ok s ∧ v.verify message s = .ok ()

/-- a header without an algorithm, or with this one -/
def Header.Allows (header : Header) (algorithm : Algorithm) : Prop :=
  header.alg = none ∨ header.alg = some (.assigned algorithm)

theorem Header.Allows.algorithmMismatch {header : Header} {algorithm : Algorithm}
    (h : header.Allows algorithm) : algorithmMismatch header algorithm = false := by
  unfold Isomdl.algorithmMismatch
  cases h with
  | inl hnone => rw [hnone]
  | inr hsome =>
    rw [hsome]
    exact bne_self_eq_false algorithm

section
variable [Ciborium] [Coset] [CosetHeader]

/-- preparing a `COSE_Sign1` agrees with verifying it -/
structure Sign1Agrees (builder : CoseSign1Builder) (detached aad : Option Bytes) (tagged : Bool) :
    Prop where
  prepares : (∃ p, PreparedCoseSign1.new builder.build detached aad tagged = .ok p) ↔
    Xor (builder.payload.isSome = true) (detached.isSome = true)
  verifies : ∀ p, PreparedCoseSign1.new builder.build detached aad tagged = .ok p →
    ∀ (S : Type) (v : Verifier S), builder.protectedHeader.header.Allows v.algorithm →
      ∀ signature : Bytes,
        (verify (p.finalize signature) v detached aad = .success ↔
          v.Accepts p.signaturePayload signature) ∧
        ∀ bytes c, toVec (p.finalize signature) = .ok bytes →
          fromSlice (MaybeTagged CoseSign1) bytes = .ok c →
            c.tagged = tagged ∧
            (verify c v detached aad = .success ↔ v.Accepts p.signaturePayload signature)
  reads : builder.protectedHeader.Writable 13 → builder.unprotected.Writable 13 →
    ∀ p, PreparedCoseSign1.new builder.build detached aad tagged = .ok p → ∀ signature : Bytes,
      ∃ bytes c, toVec (p.finalize signature) = .ok bytes ∧
        fromSlice (MaybeTagged CoseSign1) bytes = .ok c ∧ c.tagged = tagged

/-- preparing a `COSE_Mac0` agrees with verifying it; any tag parses, and one is accepted when it
is the HMAC -/
structure Mac0Agrees (builder : CoseMac0Builder) (detached aad : Option Bytes) (tagged : Bool) :
    Prop where
  prepares : (∃ p, PreparedCoseMac0.new builder.build detached aad tagged = .ok p) ↔
    Xor (builder.payload.isSome = true) (detached.isSome = true)
  verifies : ∀ p, PreparedCoseMac0.new builder.build detached aad tagged = .ok p →
    ∀ k : HmacSha256Key, builder.protectedHeader.header.Allows .HMAC_256_256 →
      ∀ tag : Bytes,
        (Mac0.verify (p.finalize tag) k detached aad = .success ↔ tag = k.tag p.tagPayload) ∧
        ∀ bytes c, toVec (p.finalize tag) = .ok bytes →
          fromSlice (MaybeTagged CoseMac0) bytes = .ok c →
            c.tagged = tagged ∧
            (Mac0.verify c k detached aad = .success ↔ tag = k.tag p.tagPayload)
  reads : builder.protectedHeader.Writable 13 → builder.unprotected.Writable 13 →
    ∀ p, PreparedCoseMac0.new builder.build detached aad tagged = .ok p → ∀ tag : Bytes,
      ∃ bytes c, toVec (p.finalize tag) = .ok bytes ∧
        fromSlice (MaybeTagged CoseMac0) bytes = .ok c ∧ c.tagged = tagged

theorem exists_onePayload {attached detached : Option Bytes} :
    (∃ payload, onePayload attached detached = some payload) ↔
      Xor (attached.isSome = true) (detached.isSome = true) := by
  unfold onePayload
  cases attached <;> cases detached <;> simp [Xor]

/-- what is prepared from the one payload, and from nothing else, is prepared exactly with one -/
theorem prepares_iff {E P : Type} {prepared : Except E P} {f : Bytes → P}
    {attached detached : Option Bytes}
    (h : ∀ p, prepared = .ok p ↔
      ∃ payload, onePayload attached detached = some payload ∧ p = f payload) :
    (∃ p, prepared = .ok p) ↔ Xor (attached.isSome = true) (detached.isSome = true) := by
  rw [← exists_onePayload]
  constructor
  · intro hprepared
    obtain ⟨p, hp⟩ := hprepared
    obtain ⟨payload, hpayload, -⟩ := (h p).mp hp
    exact ⟨payload, hpayload⟩
  · intro hpayload
    obtain ⟨payload, hpayload⟩ := hpayload
    exact ⟨_, (h (f payload)).mpr ⟨payload, hpayload, rfl⟩⟩

end

section
variable [LawfulCiborium] [Coset] [CosetHeader] [FaithfulCiborium] [LawfulCoset] [ReadsHeaders]

theorem sign1Agrees (builder : CoseSign1Builder) (detached aad : Option Bytes) (tagged : Bool) :
    Sign1Agrees builder detached aad tagged where
  prepares := prepares_iff fun _ => PreparedCoseSign1.new_ok_iff
  verifies := by
    intro p hp S v halg signature
    obtain ⟨payload, hpayload, rfl⟩ := PreparedCoseSign1.new_ok_iff.mp hp
    have hverify : verify (PreparedCoseSign1.finalize ⟨⟨tagged, builder.build⟩,
        Coset.sigStructureData .coseSign1 builder.build.protectedHeader none (aad.getD []) payload⟩
        signature) v detached aad = .success ↔
        v.Accepts (Coset.sigStructureData .coseSign1 builder.build.protectedHeader none
          (aad.getD []) payload) signature := by
      rw [verify_eq_success]
      constructor
      · intro h
        obtain ⟨-, payload', s, hpayload', hs, hok⟩ := h
        have heq : payload = payload' := Option.some.inj (hpayload.symm.trans hpayload')
        rw [heq]
        exact ⟨s, hs, hok⟩
      · intro h
        obtain ⟨s, hs, hok⟩ := h
        exact ⟨halg.algorithmMismatch, payload, s, hpayload, hs, hok⟩
    refine ⟨hverify, ?_⟩
    intro bytes c henc hdec
    have hkept := sign1_roundTrip henc hdec
    refine ⟨hkept.tagged, ?_⟩
    rw [verify_kept hkept.payload hkept.signature
      (hkept.protectedHeader builder.protectedHeader rfl)]
    exact hverify
  reads := by
    intro hw hu p hp signature
    obtain ⟨payload, -, rfl⟩ := PreparedCoseSign1.new_ok_iff.mp hp
    exact CoseSign1Builder.reads hw hu tagged signature

theorem mac0Agrees (builder : CoseMac0Builder) (detached aad : Option Bytes) (tagged : Bool) :
    Mac0Agrees builder detached aad tagged where
  prepares := prepares_iff fun _ => PreparedCoseMac0.new_ok_iff
  verifies := by
    intro p hp k halg tag
    obtain ⟨payload, hpayload, rfl⟩ := PreparedCoseMac0.new_ok_iff.mp hp
    have hverify : Mac0.verify (PreparedCoseMac0.finalize ⟨⟨tagged, builder.build⟩,
        Coset.macStructureData .coseMac0 builder.build.protectedHeader (aad.getD []) payload⟩ tag)
        k detached aad = .success ↔
        tag = k.tag (Coset.macStructureData .coseMac0 builder.build.protectedHeader
          (aad.getD []) payload) := by
      rw [Mac0.verify_eq_success]
      constructor
      · intro h
        obtain ⟨-, payload', hpayload', htag⟩ := h
        have heq : payload = payload' := Option.some.inj (hpayload.symm.trans hpayload')
        rw [heq]
        exact htag
      · intro h
        exact ⟨halg.algorithmMismatch, payload, hpayload, h⟩
    refine ⟨hverify, ?_⟩
    intro bytes c henc hdec
    have hkept := mac0_roundTrip henc hdec
    refine ⟨hkept.tagged, ?_⟩
    rw [Mac0.verify_kept hkept.payload hkept.tag (hkept.protectedHeader builder.protectedHeader rfl)]
    exact hverify
  reads := by
    intro hw hu p hp tag
    obtain ⟨payload, -, rfl⟩ := PreparedCoseMac0.new_ok_iff.mp hp
    exact CoseMac0Builder.reads hw hu tagged tag

end

namespace Sample

/-- a header with an algorithm -/
def builtHeader (a : Algorithm) (h : a.Registered) : BuiltHeader :=
  ⟨Header.ofAlgorithm a, .inr ⟨a, h, rfl⟩, fun _ he => absurd he List.not_mem_nil⟩

/-- a header with a key identifier -/
def keyId : BuiltHeader :=
  ⟨⟨none, [(.int 4, .bytes [49, 49])]⟩, .inl rfl, by decide⟩

def sign1Builder : CoseSign1Builder :=
  ⟨builtHeader .ES256 trivial, keyId, some [1, 2, 3], []⟩

def mac0Builder : CoseMac0Builder := ⟨builtHeader .HMAC_256_256 trivial, keyId, none, []⟩

end Sample

theorem Sample.writable_builtHeader {a : Algorithm} (h : a.Registered)
    (hsmall : ∀ id, a = .other id → id < 2 ^ 63) : (Sample.builtHeader a h).Writable 13 where
  distinct := List.nodup_nil
  vector h := absurd h.1 List.not_mem_nil
  algorithm id hid := by
    cases hid
    exact hsmall id rfl
  takes e he := absurd he List.not_mem_nil
  plain e he := absurd he List.not_mem_nil

theorem Sample.writable_keyId : Sample.keyId.Writable 13 where
  distinct := List.nodup_singleton _
  vector := by decide
  algorithm id hid := by cases hid
  takes e he := by
    obtain rfl := List.mem_singleton.mp he
    exact .inl ⟨by decide, _, List.cons_ne_nil 49 [49], rfl⟩
  plain e he := by
    obtain rfl := List.mem_singleton.mp he
    exact Value.plain_bytes 13 _

open scoped Reference in
/-- a tag that is good for the exposed bytes is accepted after the wire -/
example :
    (PreparedCoseMac0.new Sample.mac0Builder.build (some [1, 2, 3]) (some []) false).toOption.bind
      (fun p => (toVec (p.finalize (HmacSha256Key.tag ⟨[7]⟩ p.tagPayload))).toOption.bind fun bytes =>
        (fromSlice (MaybeTagged CoseMac0) bytes).toOption.map fun c =>
          Mac0.verify c ⟨[7]⟩ (some [1, 2, 3]) none) = some .success := by
  decide +kernel

end Isomdl
