import Isomdl.Definitions.SessionCrypto.Streaming
import Isomdl.Lib.Effect
import Isomdl.Lib.Hmac

/-!
# HMAC and HKDF in borrowed buffers (`definitions/session_crypto.rs`)

The caller lends the buffers of the computation and one for the output.  A guard wipes the scratch
buffers however the call ends, and another one the output unless the call succeeds.  The step that
runs after the computation has no access to them; it returns, fails or panics.

* `hmacSha256Into_spec`       what is left in the buffers;
* `exec_withGuards`           what the guards leave of a call;
* `hmac_hkdf_cleansUp`        the outputs, and what is left where there is none.
-/

namespace Isomdl

open Checked SecureHash

namespace Scratch

/-- what `hmac_sha256_into` borrows -/
structure HmacBuffers where
  keyBlock : Buffer SHA256_BLOCK_BYTES
  innerDigest : Buffer 32
  output : Buffer 32

def HmacBuffers.zero : HmacBuffers := ⟨.zero SHA256_BLOCK_BYTES, .zero 32, .zero 32⟩

/-- the key, hashed where it is too long for its block -/
def writeKey (key : Bytes) : Effect HmacBuffers Unit := do
  let buffers ← get
  if SHA256_BLOCK_BYTES < key.length then do
    let hashedKey ← SecureSha256.hashParts [key]
    let keyBlock ← buffers.keyBlock.copyFromSlice 0 32 hashedKey.1
    set { buffers with keyBlock }
  else do
    let keyBlock ← buffers.keyBlock.copyFromSlice 0 key.length key
    set { buffers with keyBlock }

/-- the inner hash -/
def writeInner (messageParts : List Bytes) : Effect HmacBuffers Unit := do
  modify fun buffers => { buffers with keyBlock := buffers.keyBlock.map (· ^^^ 0x36) }
  let buffers ← get
  let innerDigest ← SecureSha256.hashParts (buffers.keyBlock.1 :: messageParts)
  let innerDigest ← buffers.innerDigest.copyFromSlice 0 32 innerDigest.1
  set { buffers with innerDigest }

/-- the outer hash -/
def writeOuter : Effect HmacBuffers Unit := do
  modify fun buffers => { buffers with keyBlock := buffers.keyBlock.map (· ^^^ (0x36 ^^^ 0x5c)) }
  let buffers ← get
  let digest ← SecureSha256.hashParts [buffers.keyBlock.1, buffers.innerDigest.1]
  let output ← buffers.output.copyFromSlice 0 32 digest.1
  set { buffers with output }

/-- `hmac_sha256_into` -/
def hmacSha256Into (key : Bytes) (messageParts : List Bytes) : Effect HmacBuffers Unit := do
  set HmacBuffers.zero
  writeKey key
  writeInner messageParts
  writeOuter

/-! ## guards -/

/-- the memory of a call: what it borrows, and the flag of its `OutputGuard` -/
structure Call (σ : Type) where
  scratch : σ
  output : Buffer 32
  keep : Bool

/-- `<OutputGuard as Drop>::drop` -/
def dropOutputGuard {σ : Type} (call : Call σ) : Call σ :=
  if call.keep then call else { call with output := .zero 32 }

/-- the frame of both calls: the output is zeroed, and the guards stand before the body runs -/
def withGuards {σ : Type} (zero : σ) (body : Effect (Call σ) (Except Unit Unit)) :
    Effect (Call σ) (Except Unit Unit) := do
  modify fun call => { call with output := .zero 32 }
  Effect.guarded (fun call => { call with scratch := zero }) do
    modify fun call => { call with keep := false }
    Effect.guarded dropOutputGuard body

/-- `guarded_output.keep = true; Ok(())` -/
def keepOutput {σ : Type} : Effect (Call σ) (Except Unit Unit) := do
  modify fun call => { call with keep := true }
  return .ok ()

/-- how a call ends, its output and its scratch buffers -/
abbrev Outcome (σ : Type) := Except Panic (Except Unit Unit) × Buffer 32 × σ

def Call.outcome {σ : Type} (r : Except Panic (Except Unit Unit) × Call σ) : Outcome σ :=
  (r.1, r.2.output, r.2.scratch)

structure HmacSha256Scratch where
  keyBlock : Buffer SHA256_BLOCK_BYTES
  innerDigest : Buffer 32

def HmacSha256Scratch.zero : HmacSha256Scratch := ⟨.zero SHA256_BLOCK_BYTES, .zero 32⟩

/-- `hmac_sha256_into(key, message_parts, key_block, inner_digest, output)` -/
def hmacToOutput (key : Bytes) (messageParts : List Bytes) : Effect (Call HmacSha256Scratch) Unit :=
  Effect.borrowing
    (fun call => ⟨call.scratch.keyBlock, call.scratch.innerDigest, call.output⟩)
    (fun call buffers => { call with
      scratch := ⟨buffers.keyBlock, buffers.innerDigest⟩
      output := buffers.output })
    (hmacSha256Into key messageParts)

def hmacSha256WithScratch (key : Bytes) (messageParts : List Bytes) (output : Buffer 32)
    (scratch : HmacSha256Scratch) (afterCompute : Except Panic (Except Unit Unit)) :
    Outcome HmacSha256Scratch :=
  Call.outcome <| (withGuards HmacSha256Scratch.zero do
    hmacToOutput key messageParts
    Effect.andThen afterCompute keepOutput).exec ⟨scratch, output, false⟩

structure HkdfScratch where
  keyBlock : Buffer SHA256_BLOCK_BYTES
  innerDigest : Buffer 32
  prk : Buffer 32

def HkdfScratch.zero : HkdfScratch := ⟨.zero SHA256_BLOCK_BYTES, .zero 32, .zero 32⟩

/-- `hmac_sha256_into(salt, &[input_key_material], key_block, inner_digest, prk)` -/
def extractToPrk (salt inputKeyMaterial : Bytes) : Effect (Call HkdfScratch) Unit :=
  Effect.borrowing
    (fun call => ⟨call.scratch.keyBlock, call.scratch.innerDigest, call.scratch.prk⟩)
    (fun call buffers => { call with
      scratch := ⟨buffers.keyBlock, buffers.innerDigest, buffers.output⟩ })
    (hmacSha256Into salt [inputKeyMaterial])

/-- `hmac_sha256_into(prk, &[info, &counter], key_block, inner_digest, output)` -/
def expandToOutput (info : Bytes) : Effect (Call HkdfScratch) Unit := do
  let call ← get
  Effect.borrowing
    (fun call => ⟨call.scratch.keyBlock, call.scratch.innerDigest, call.output⟩)
    (fun call buffers => { call with
      scratch := ⟨buffers.keyBlock, buffers.innerDigest, call.scratch.prk⟩
      output := buffers.output })
    (hmacSha256Into call.scratch.prk.1 [info, [1]])

def hkdfSha256_32WithScratch (inputKeyMaterial salt info : Bytes) (output : Buffer 32)
    (scratch : HkdfScratch) (afterExtract : Except Panic (Except Unit Unit)) :
    Outcome HkdfScratch :=
  Call.outcome <| (withGuards HkdfScratch.zero do
    extractToPrk salt inputKeyMaterial
    Effect.andThen afterExtract do
      expandToOutput info
      keepOutput).exec ⟨scratch, output, false⟩

/-! ## the keyed hash -/

/-- the two pads of one key block -/
theorem pads (block : Bytes) :
    (block.map (· ^^^ 0x36)).map (· ^^^ (0x36 ^^^ 0x5c)) = block.map (· ^^^ 0x5c) := by
  rw [List.map_map]
  apply List.map_congr_left
  intro byte _
  show byte ^^^ 0x36 ^^^ (0x36 ^^^ 0x5c) = byte ^^^ 0x5c
  rw [UInt8.xor_assoc, ← UInt8.xor_assoc 0x36, UInt8.xor_self, UInt8.zero_xor]

theorem keyBlock_eq (key : Bytes) :
    keyBlock key = KeyedHash.blockKey sha256 SHA256_BLOCK_BYTES key := by
  have hone : secureSha256 [key] = sha256 key := by
    rw [secureSha256, List.flatten_singleton]
  unfold keyBlock KeyedHash.blockKey
  rw [hone]

/-- **What the code computes is the keyed hash of the parts as one message.** -/
theorem hmacSha256Into_eq_hmac (key : Bytes) (messageParts : List Bytes) :
    Isomdl.hmacSha256Into key messageParts =
      KeyedHash.hmac sha256 SHA256_BLOCK_BYTES key messageParts.flatten := by
  unfold Isomdl.hmacSha256Into KeyedHash.hmac
  dsimp only
  rw [pads, keyBlock_eq, secureSha256, secureSha256, List.flatten_cons, List.flatten_cons,
    List.flatten_nil, List.append_nil, List.flatten_cons]

/-- **And the derivation of one hash of key material.** -/
theorem hkdfSha256_32_eq_hkdf (inputKeyMaterial salt info : Bytes) :
    (hkdfSha256_32 inputKeyMaterial salt info).1 =
      KeyedHash.hkdf sha256 SHA256_BLOCK_BYTES 32 salt inputKeyMaterial info 32 := by
  rw [KeyedHash.hkdf, KeyedHash.expand_hashLength (by decide) length_sha256, KeyedHash.extract]
  show Isomdl.hmacSha256Into (Isomdl.hmacSha256Into salt [inputKeyMaterial]) [info, [1]] = _
  rw [hmacSha256Into_eq_hmac, hmacSha256Into_eq_hmac, List.flatten_singleton, List.flatten_cons,
    List.flatten_singleton]

example : KeyedHash.hkdf sha256 SHA256_BLOCK_BYTES 32 [0, 1, 2, 3, 4, 5, 6, 7, 8, 9, 10, 11, 12]
    (List.replicate 22 0x0b) [0xf0, 0xf1, 0xf2, 0xf3, 0xf4, 0xf5, 0xf6, 0xf7, 0xf8, 0xf9] 32 =
      [0x3c, 0xb2, 0x5f, 0x25, 0xfa, 0xac, 0xd5, 0x7a, 0x90, 0x43, 0x4f, 0x64, 0xd0, 0x36, 0x2f, 0x2a,
        0x2d, 0x2d, 0x0a, 0x90, 0xcf, 0x1a, 0x5a, 0x4c, 0x5d, 0xb0, 0x2d, 0x56, 0xec, 0xc4, 0xc5,
        0xbf] := by
  decide +kernel

/-! ## in the buffers -/

theorem writeKey_eq {key : Bytes} (h : key.length < 2 ^ 61) :
    ∃ buffers, (writeKey key).exec HmacBuffers.zero = (.ok (), buffers) ∧
      buffers.keyBlock.1 = keyBlock key := by
  unfold writeKey keyBlock
  rw [Effect.exec_bind (Effect.exec_get _)]
  by_cases hlong : SHA256_BLOCK_BYTES < key.length
  · rw [if_pos hlong, if_pos hlong]
    have hflat : ([key] : List Bytes).flatten.length < 2 ^ 61 := by
      rw [List.flatten_singleton]
      exact h
    have hlength : (secureSha256 [key]).length = 32 := length_sha256 _
    obtain ⟨c, hc, hbytes⟩ := Buffer.copyFromSlice_zero hlength
      (show 32 ≤ SHA256_BLOCK_BYTES by decide)
    rw [← hlength] at hbytes
    rw [Effect.exec_bind_lift (SecureSha256.hashParts_eq hflat)]
    exact ⟨_, Effect.exec_bind_lift hc, hbytes⟩
  · rw [if_neg hlong, if_neg hlong]
    obtain ⟨c, hc, hbytes⟩ := Buffer.copyFromSlice_zero rfl (Nat.not_lt.mp hlong)
    exact ⟨_, Effect.exec_bind_lift hc, hbytes⟩

theorem writeKey_long {key : Bytes} (h : 2 ^ 61 ≤ key.length) (buffers : HmacBuffers) :
    ∃ text, (writeKey key).exec buffers = (.error (.message text), buffers) := by
  have hflat : 2 ^ 61 ≤ ([key] : List Bytes).flatten.length := by
    rw [List.flatten_singleton]
    exact h
  have hlong : SHA256_BLOCK_BYTES < key.length := Nat.lt_of_lt_of_le (by decide) h
  obtain ⟨text, htext⟩ := SecureSha256.hashParts_long hflat
  refine ⟨text, ?_⟩
  unfold writeKey
  rw [Effect.exec_bind (Effect.exec_get _), if_pos hlong]
  exact Effect.exec_bind_lift_error htext

theorem writeInner_eq {messageParts : List Bytes} (h : 64 + messageParts.flatten.length < 2 ^ 61)
    (buffers : HmacBuffers) :
    ∃ buffers', (writeInner messageParts).exec buffers = (.ok (), buffers') ∧
      buffers'.keyBlock.1 = buffers.keyBlock.1.map (· ^^^ 0x36) ∧
      buffers'.innerDigest.1 =
        secureSha256 (buffers.keyBlock.1.map (· ^^^ 0x36) :: messageParts) := by
  unfold writeInner
  rw [Effect.exec_bind (Effect.exec_modify _ _), Effect.exec_bind (Effect.exec_get _)]
  have hflat : ((buffers.keyBlock.map (· ^^^ 0x36)).1 :: messageParts).flatten.length < 2 ^ 61 := by
    rw [List.flatten_cons, List.length_append, (buffers.keyBlock.map (· ^^^ 0x36)).2]
    exact h
  rw [Effect.exec_bind_lift (SecureSha256.hashParts_eq hflat)]
  exact ⟨_, Effect.exec_bind_lift (Buffer.copyFromSlice_all _ _), rfl, rfl⟩

theorem writeInner_long {messageParts : List Bytes}
    (h : 2 ^ 61 ≤ 64 + messageParts.flatten.length) (buffers : HmacBuffers) :
    ∃ text buffers', (writeInner messageParts).exec buffers = (.error (.message text), buffers') := by
  unfold writeInner
  rw [Effect.exec_bind (Effect.exec_modify _ _), Effect.exec_bind (Effect.exec_get _)]
  have hflat : 2 ^ 61 ≤ ((buffers.keyBlock.map (· ^^^ 0x36)).1 :: messageParts).flatten.length := by
    rw [List.flatten_cons, List.length_append, (buffers.keyBlock.map (· ^^^ 0x36)).2]
    exact h
  obtain ⟨text, htext⟩ := SecureSha256.hashParts_long hflat
  exact ⟨text, _, Effect.exec_bind_lift_error htext⟩

theorem writeOuter_eq (buffers : HmacBuffers) :
    ∃ buffers', writeOuter.exec buffers = (.ok (), buffers') ∧
      buffers'.output.1 = secureSha256
        [buffers.keyBlock.1.map (· ^^^ (0x36 ^^^ 0x5c)), buffers.innerDigest.1] := by
  unfold writeOuter
  rw [Effect.exec_bind (Effect.exec_modify _ _), Effect.exec_bind (Effect.exec_get _)]
  have hflat : [(buffers.keyBlock.map (· ^^^ (0x36 ^^^ 0x5c))).1,
      buffers.innerDigest.1].flatten.length < 2 ^ 61 := by
    rw [List.flatten_cons, List.flatten_singleton, List.length_append,
      (buffers.keyBlock.map _).2, buffers.innerDigest.2]
    decide
  rw [Effect.exec_bind_lift (SecureSha256.hashParts_eq hflat)]
  exact ⟨_, Effect.exec_bind_lift (Buffer.copyFromSlice_all _ _), rfl⟩

/-- the lengths that can be hashed -/
def Fits (key : Bytes) (messageParts : List Bytes) : Prop :=
  key.length < 2 ^ 61 ∧ 64 + messageParts.flatten.length < 2 ^ 61

/-- **What is left in the buffers**, whatever was in them. -/
theorem hmacSha256Into_spec (key : Bytes) (messageParts : List Bytes) (buffers : HmacBuffers) :
    (Fits key messageParts ∧ ∃ buffers',
      (hmacSha256Into key messageParts).exec buffers = (.ok (), buffers') ∧
        buffers'.output.1 = Isomdl.hmacSha256Into key messageParts) ∨
    (¬ Fits key messageParts ∧ ∃ text buffers',
      (hmacSha256Into key messageParts).exec buffers = (.error (.message text), buffers')) := by
  unfold hmacSha256Into
  rw [Effect.exec_bind (Effect.exec_set _ _)]
  by_cases hkey : key.length < 2 ^ 61
  · obtain ⟨keyed, hkeyed, hblock⟩ := writeKey_eq hkey
    rw [Effect.exec_bind hkeyed]
    by_cases hparts : 64 + messageParts.flatten.length < 2 ^ 61
    · obtain ⟨inner, hinner, hpad, hdigest⟩ := writeInner_eq hparts keyed
      obtain ⟨outer, houter, houtput⟩ := writeOuter_eq inner
      refine .inl ⟨⟨hkey, hparts⟩, outer, ?_, ?_⟩
      · rw [Effect.exec_bind hinner, houter]
      · rw [houtput, hpad, hdigest, hblock]
        rfl
    · obtain ⟨text, inner, hinner⟩ := writeInner_long (Nat.not_lt.mp hparts) keyed
      exact .inr ⟨fun h => hparts h.2, text, inner, Effect.exec_bind_error hinner⟩
  · obtain ⟨text, hkeyed⟩ := writeKey_long (Nat.not_lt.mp hkey) HmacBuffers.zero
    exact .inr ⟨fun h => hkey h.1, text, _, Effect.exec_bind_error hkeyed⟩

/-! ## what a call leaves -/

section
variable {σ : Type} (ready fits : Prop) (after : Except Panic (Except Unit Unit)) (value : Bytes)

/-- **The promise of a call** with `value` as its output: it succeeds when its lengths fit and the
step after the computation does.  It fails when that step does, once the computation before the
step was `ready`.  A panic is that of the step or of a length check.  Without success the output is
zero, and the scratch buffers are in every case. -/
structure CleansUp (zero : σ) (r : Outcome σ) : Prop where
  success_iff : r.1 = .ok (.ok ()) ↔ fits ∧ after = .ok (.ok ())
  failure_iff : r.1 = .ok (.error ()) ↔ ready ∧ after = .ok (.error ())
  panics : ∀ p, r.1 = .error p → after = .error p ∨ ∃ text, p = .message text
  output_eq : r.1 = .ok (.ok ()) → r.2.1.1 = value
  output_zero : r.1 ≠ .ok (.ok ()) → r.2.1 = .zero 32
  scratch_zero : r.2.2 = zero

/-- how the body of a call ends, and the flag of its `OutputGuard` then -/
inductive Ends : Except Panic (Except Unit Unit) × Call σ → Prop
  | success (scratch : σ) (output : Buffer 32) (hfits : fits) (hafter : after = .ok (.ok ()))
    (hvalue : output.1 = value) : Ends (.ok (.ok ()), ⟨scratch, output, true⟩)
  | failure (scratch : σ) (output : Buffer 32) (hready : ready) (hafter : after = .ok (.error ())) :
    Ends (.ok (.error ()), ⟨scratch, output, false⟩)
  | panic (p : Panic) (scratch : σ) (output : Buffer 32) (hfits : ¬ (fits ∧ after = .ok (.ok ())))
    (hready : ¬ (ready ∧ after = .ok (.error ())))
    (hp : after = .error p ∨ ∃ text, p = .message text) :
    Ends (.error p, ⟨scratch, output, false⟩)

variable {ready fits after value}

theorem exec_withGuards (zero : σ) (body : Effect (Call σ) (Except Unit Unit)) (call : Call σ) :
    (withGuards zero body).exec call =
      ((body.exec ⟨call.scratch, .zero 32, false⟩).1,
        { dropOutputGuard (body.exec ⟨call.scratch, .zero 32, false⟩).2 with scratch := zero }) := by
  rw [withGuards, Effect.exec_bind (Effect.exec_modify _ _), Effect.exec_guarded,
    Effect.exec_bind (Effect.exec_modify _ _), Effect.exec_guarded]

/-- **The guards keep the promise**, whatever the buffers held. -/
theorem Ends.cleansUp {body : Effect (Call σ) (Except Unit Unit)} {scratch : σ}
    (h : Ends ready fits after value (body.exec ⟨scratch, .zero 32, false⟩)) (zero : σ)
    (output : Buffer 32) :
    CleansUp ready fits after value zero
      (Call.outcome ((withGuards zero body).exec ⟨scratch, output, false⟩)) := by
  rw [exec_withGuards]
  generalize body.exec ⟨scratch, .zero 32, false⟩ = r at h
  cases h with
  | success scratch output hfits hafter hvalue =>
    refine ⟨iff_of_true rfl ⟨hfits, hafter⟩, iff_of_false ?_ ?_, ?_, fun _ => hvalue, ?_, rfl⟩
    · exact fun h => by cases h
    · exact fun h => by cases hafter.symm.trans h.2
    · exact fun p h => by cases h
    · exact fun h => absurd rfl h
  | failure scratch output hready hafter =>
    refine ⟨iff_of_false ?_ ?_, iff_of_true rfl ⟨hready, hafter⟩, ?_, ?_, fun _ => rfl, rfl⟩
    · exact fun h => by cases h
    · exact fun h => by cases hafter.symm.trans h.2
    · exact fun p h => by cases h
    · exact fun h => by cases h
  | panic p scratch output hfits hready hp =>
    refine ⟨iff_of_false ?_ hfits, iff_of_false ?_ hready, ?_, ?_, fun _ => rfl, rfl⟩
    · exact fun h => by cases h
    · exact fun h => by cases h
    · intro q h
      cases h
      exact hp
    · exact fun h => by cases h

/-- the step between a computation that went well and the rest of the body -/
theorem ends_andThen {rest : Effect (Call σ) (Except Unit Unit)} {scratch : σ} {output : Buffer 32}
    (hready : ready)
    (hrest : after = .ok (.ok ()) → Ends ready fits after value (rest.exec ⟨scratch, output, false⟩)) :
    Ends ready fits after value ((Effect.andThen after rest).exec ⟨scratch, output, false⟩) := by
  cases after with
  | ok result =>
    cases result with
    | ok u =>
      rw [Effect.exec_andThen rfl]
      exact hrest rfl
    | error u =>
      rw [Effect.exec_andThen_error rfl]
      exact .failure _ _ hready rfl
  | error p =>
    rw [Effect.exec_andThen_panic rfl]
    exact .panic _ _ _ (fun h => by cases h.2) (fun h => by cases h.2) (.inl rfl)

end

/-- `hmac_sha256_into` in buffers that it borrows from the memory of a call -/
theorem exec_borrowing_hmac {σ : Type} (view : Call σ → HmacBuffers)
    (put : Call σ → HmacBuffers → Call σ) (key : Bytes) (messageParts : List Bytes) (call : Call σ) :
    (Fits key messageParts ∧ ∃ buffers,
      (Effect.borrowing view put (hmacSha256Into key messageParts)).exec call =
        (.ok (), put call buffers) ∧
      buffers.output.1 = Isomdl.hmacSha256Into key messageParts) ∨
    (¬ Fits key messageParts ∧ ∃ text buffers,
      (Effect.borrowing view put (hmacSha256Into key messageParts)).exec call =
        (.error (.message text), put call buffers)) := by
  rcases hmacSha256Into_spec key messageParts (view call) with
    ⟨hfits, buffers, hexec, houtput⟩ | ⟨hfits, text, buffers, hexec⟩
  · refine .inl ⟨hfits, buffers, ?_, houtput⟩
    rw [Effect.exec_borrowing, hexec]
  · refine .inr ⟨hfits, text, buffers, ?_⟩
    rw [Effect.exec_borrowing, hexec]

/-- the body of `hmac_sha256_with_scratch` -/
theorem hmac_ends (key : Bytes) (messageParts : List Bytes) (scratch : HmacSha256Scratch)
    (afterCompute : Except Panic (Except Unit Unit)) :
    Ends (Fits key messageParts) (Fits key messageParts) afterCompute
      (Isomdl.hmacSha256Into key messageParts)
      (Effect.exec (do
        hmacToOutput key messageParts
        Effect.andThen afterCompute keepOutput) ⟨scratch, .zero 32, false⟩) := by
  unfold hmacToOutput
  rcases exec_borrowing_hmac _ _ key messageParts ⟨scratch, .zero 32, false⟩ with
    ⟨hfits, buffers, hexec, houtput⟩ | ⟨hfits, text, buffers, hexec⟩
  · rw [Effect.exec_bind hexec]
    apply ends_andThen hfits
    intro hafter
    exact .success _ _ hfits hafter houtput
  · rw [Effect.exec_bind_error hexec]
    exact .panic _ _ _ (fun h => hfits h.1) (fun h => hfits h.1) (.inr ⟨text, rfl⟩)

/-- the lengths that can be expanded -/
theorem fits_expand (prk : Buffer 32) (info : Bytes) :
    Fits prk.1 [info, [1]] ↔ info.length + 65 < 2 ^ 61 := by
  have hprk : prk.1.length < 2 ^ 61 := by
    rw [prk.2]
    decide
  rw [Fits, List.flatten_cons, List.flatten_singleton, List.length_append, List.length_singleton]
  constructor
  · intro h
    omega
  · intro h
    exact ⟨hprk, by omega⟩

/-- the body of `hkdf_sha256_32_with_scratch` -/
theorem hkdf_ends (inputKeyMaterial salt info : Bytes) (scratch : HkdfScratch)
    (afterExtract : Except Panic (Except Unit Unit)) :
    Ends (Fits salt [inputKeyMaterial])
      (Fits salt [inputKeyMaterial] ∧ info.length + 65 < 2 ^ 61) afterExtract
      (hkdfSha256_32 inputKeyMaterial salt info).1
      (Effect.exec (do
        extractToPrk salt inputKeyMaterial
        Effect.andThen afterExtract do
          expandToOutput info
          keepOutput) ⟨scratch, .zero 32, false⟩) := by
  unfold extractToPrk expandToOutput
  rcases exec_borrowing_hmac _ _ salt [inputKeyMaterial] ⟨scratch, .zero 32, false⟩ with
    ⟨hready, extracted, hextract, hprk⟩ | ⟨hready, text, extracted, hextract⟩
  · rw [Effect.exec_bind hextract]
    apply ends_andThen hready
    intro hafter
    -- the key is read from the scratch buffer before its other buffers are lent again
    rw [bind_assoc, Effect.exec_bind (Effect.exec_get _)]
    rcases exec_borrowing_hmac _ _ extracted.output.1 [info, [1]] _ with
      ⟨hfits, expanded, hexpand, houtput⟩ | ⟨hfits, text, expanded, hexpand⟩
    · rw [Effect.exec_bind hexpand]
      rw [hprk] at houtput
      exact .success _ _ ⟨hready, (fits_expand _ _).mp hfits⟩ hafter houtput
    · rw [Effect.exec_bind_error hexpand]
      refine .panic _ _ _ (fun h => hfits ((fits_expand _ _).mpr h.1.2)) ?_ (.inr ⟨text, rfl⟩)
      rw [hafter]
      exact fun h => by cases h.2
  · rw [Effect.exec_bind_error hextract]
    exact .panic _ _ _ (fun h => hready h.1.1) (fun h => hready h.1) (.inr ⟨text, rfl⟩)

/-- **HMAC and HKDF clean up**: whatever the lengths of their arguments and whatever the buffers
held, the output of a call that succeeds is the keyed hash of the parts as one message, and the
derivation of 32 bytes; without success it is zero, and the scratch buffers are in every case. -/
theorem hmac_hkdf_cleansUp :
    (∀ key messageParts output scratch afterCompute,
      CleansUp (Fits key messageParts) (Fits key messageParts) afterCompute
        (KeyedHash.hmac sha256 SHA256_BLOCK_BYTES key messageParts.flatten) HmacSha256Scratch.zero
        (hmacSha256WithScratch key messageParts output scratch afterCompute)) ∧
    ∀ inputKeyMaterial salt info output scratch afterExtract,
      CleansUp (Fits salt [inputKeyMaterial])
        (Fits salt [inputKeyMaterial] ∧ info.length + 65 < 2 ^ 61) afterExtract
        (KeyedHash.hkdf sha256 SHA256_BLOCK_BYTES 32 salt inputKeyMaterial info 32)
        HkdfScratch.zero
        (hkdfSha256_32WithScratch inputKeyMaterial salt info output scratch afterExtract) := by
  constructor
  · intro key messageParts output scratch afterCompute
    rw [← hmacSha256Into_eq_hmac]
    exact (hmac_ends key messageParts scratch afterCompute).cleansUp _ output
  · intro inputKeyMaterial salt info output scratch afterExtract
    rw [← hkdfSha256_32_eq_hkdf]
    exact (hkdf_ends inputKeyMaterial salt info scratch afterExtract).cleansUp _ output

end Scratch

end Isomdl
