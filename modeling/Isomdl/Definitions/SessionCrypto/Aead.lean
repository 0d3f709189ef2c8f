import Isomdl.Lib.Effect
import Isomdl.Reference.Crypto

/-!
# The buffers of an authenticated encryption (`definitions/session.rs`)

Both builds encrypt and decrypt in place, in a copy of their input that a guard owns.  A guard wipes
its allocation, the spare capacity included, before it is given back; what is returned is taken out
of the guard.  The key is dropped with the call.

* `Aead.wiped`            what is left of a call, however it ends;
* `Aead.backends_agree`   what a call returns, in either build.
-/

set_option linter.unusedSectionVars false

namespace Isomdl

open Checked

namespace Aead

/-! ## vectors of bytes -/

/-- `Vec<u8>`: its allocation, of which the first `len` bytes are in use -/
structure ByteVec where
  memory : Bytes
  len : ℕ
  inBounds : len ≤ memory.length

namespace ByteVec

def empty : ByteVec := ⟨[], 0, Nat.le_refl 0⟩
def contents (v : ByteVec) : Bytes := v.memory.take v.len
def capacity (v : ByteVec) : ℕ := v.memory.length

/-- `to_vec` -/
def copyOf (bytes : Bytes) : ByteVec := ⟨bytes, bytes.length, Nat.le_refl _⟩

theorem length_contents (v : ByteVec) : v.contents.length = v.len := by
  rw [contents, List.length_take, Nat.min_eq_left v.inBounds]

theorem length_overwrite (v : ByteVec) (bytes : Buffer v.len) :
    (bytes.1 ++ v.memory.drop v.len).length = v.memory.length := by
  rw [List.length_append, bytes.2, List.length_drop, Nat.add_sub_cancel' v.inBounds]

/-- other contents of the same length -/
def overwrite (v : ByteVec) (bytes : Buffer v.len) : ByteVec :=
  ⟨bytes.1 ++ v.memory.drop v.len, v.len, by rw [length_overwrite]; exact v.inBounds⟩

/-- `truncate` -/
def truncate (v : ByteVec) (n : ℕ) : ByteVec :=
  ⟨v.memory, min n v.len, Nat.le_trans (Nat.min_le_right n v.len) v.inBounds⟩

theorem length_resize (v : ByteVec) :
    (v.contents ++ List.replicate (v.capacity - v.len) 0).length = v.capacity := by
  rw [List.length_append, length_contents, List.length_replicate]
  exact Nat.add_sub_cancel' v.inBounds

/-- `resize(capacity, 0)` -/
def resizeToCapacity (v : ByteVec) : ByteVec :=
  ⟨v.contents ++ List.replicate (v.capacity - v.len) 0, v.capacity, by rw [length_resize]⟩

/-- `fill(0)` -/
def fillZero (v : ByteVec) : ByteVec := v.overwrite (.zero v.len)

end ByteVec

/-! ## the crates -/

/-- what a call that works in place leaves: how it ends, the vector, and the allocations that the
vector outgrew -/
structure InPlace (α : Type) where
  result : Except Panic (Except Unit α)
  bytes : ByteVec
  outgrown : List Bytes

/-- `aws-lc-rs` -/
class AwsLc where
  Key : Type
  unboundKey : Bytes → Option Key
  sealInPlaceAppendTag : Key → Nonce → ByteVec → InPlace Unit
  /-- the contents afterwards, and the length of the plaintext at their start -/
  openInPlace : Key → Nonce → (v : ByteVec) → Except Panic (Except Unit ℕ) × Buffer v.len

/-- `aes-gcm` -/
class AesGcmCrate where
  Key : Type
  new : SessionKey → Key
  encryptInPlace : Key → Nonce → ByteVec → InPlace Unit
  decryptInPlace : Key → Nonce → ByteVec → InPlace Unit

/-! ## buffers and keys -/

/-- the vector of a `SensitiveAeadBuffer`, the allocations that were given back, as they were then,
and the number of keys that were dropped -/
structure Memory where
  bytes : ByteVec
  freed : List Bytes
  keyDrops : ℕ

/-- `SensitiveAeadBuffer::copied_from` -/
def copiedFrom (bytes : Bytes) : Effect Memory Unit :=
  modify fun m => { m with bytes := .copyOf bytes }

/-- `SensitiveAeadBuffer::into_vec` -/
def intoVec : Effect Memory (Except Unit ByteVec) := do
  let m ← get
  set { m with bytes := .empty }
  return .ok m.bytes

/-- `<SensitiveAeadBuffer as Drop>::drop`, and the end of the allocation -/
def dropBuffer (m : Memory) : Memory :=
  { m with bytes := .empty, freed := m.freed ++ [m.bytes.resizeToCapacity.fillZero.memory] }

/-- `<NativeSessionAeadKey as Drop>::drop`, `<WasmSessionAeadKey as Drop>::drop` -/
def dropKey (m : Memory) : Memory := { m with keyDrops := m.keyDrops + 1 }

/-- a call of a crate on the vector -/
def inPlace {α : Type} (call : ByteVec → InPlace α) : Effect Memory (Except Unit α) :=
  fun m =>
    let r := call m.bytes
    (r.result, { m with bytes := r.bytes, freed := m.freed ++ r.outgrown })

/-- a call on the contents as a slice -/
def inSlice {α : Type} (call : (v : ByteVec) → Except Panic (Except Unit α) × Buffer v.len) :
    Effect Memory (Except Unit α) :=
  inPlace fun v => ⟨(call v).1, v.overwrite (call v).2, []⟩

/-- `truncate` -/
def truncateTo (n : ℕ) : Effect Memory Unit := modify fun m => { m with bytes := m.bytes.truncate n }

/-! ## the native build -/

/-- the step that runs on the copy before it is encrypted -/
abbrev PostCopy := (v : ByteVec) → Except Panic (Except Unit Unit) × Buffer v.len

/-- `|_| Ok(())` -/
def noPostCopy : PostCopy := fun v => (.ok (.ok ()), ⟨v.contents, v.length_contents⟩)

namespace Native

variable [AwsLc]

/-- `NativeSessionAeadKey::seal_with_post_copy` -/
def sealWithPostCopy (key : AwsLc.Key) (nonce : Nonce) (plaintext : Bytes) (postCopy : PostCopy) :
    Effect Memory (Except Unit ByteVec) := do
  copiedFrom plaintext
  Effect.guarded dropBuffer <|
    Effect.orReturn (inSlice postCopy) fun _ =>
      Effect.orReturn (inPlace (AwsLc.sealInPlaceAppendTag key nonce)) fun _ => intoVec

/-- `NativeSessionAeadKey::open` -/
def openCiphertext (key : AwsLc.Key) (nonce : Nonce) (ciphertext : Bytes) :
    Effect Memory (Except Unit ByteVec) := do
  copiedFrom ciphertext
  Effect.guarded dropBuffer <|
    Effect.orReturn (inSlice (AwsLc.openInPlace key nonce)) fun plaintextLen => do
      truncateTo plaintextLen
      intoVec

/-- a call with the key of `NativeSessionAeadKey::new` -/
def withKey (sessionKey : SessionKey) (call : AwsLc.Key → Effect Memory (Except Unit ByteVec)) :
    Effect Memory (Except Unit ByteVec) :=
  match AwsLc.unboundKey sessionKey.1 with
  | none => return .error ()
  | some key => Effect.guarded dropKey (call key)

/-- `encrypt_with_backend` -/
def encryptWithBackend (sessionKey : SessionKey) (nonce : Nonce) (plaintext : Bytes) :
    Effect Memory (Except Unit ByteVec) :=
  withKey sessionKey fun key => sealWithPostCopy key nonce plaintext noPostCopy

/-- `decrypt_with_backend` -/
def decryptWithBackend (sessionKey : SessionKey) (nonce : Nonce) (ciphertext : Bytes) :
    Effect Memory (Except Unit ByteVec) :=
  withKey sessionKey fun key => openCiphertext key nonce ciphertext

end Native

/-! ## the wasm build -/

namespace Wasm

variable [AesGcmCrate]

/-- `WasmSessionAeadKey::seal_with_post_copy` -/
def sealWithPostCopy (key : AesGcmCrate.Key) (nonce : Nonce) (plaintext : Bytes)
    (postCopy : PostCopy) : Effect Memory (Except Unit ByteVec) := do
  copiedFrom plaintext
  Effect.guardedAborting dropBuffer <|
    Effect.orReturn (inSlice postCopy) fun _ =>
      Effect.orReturn (inPlace (AesGcmCrate.encryptInPlace key nonce)) fun _ => intoVec

/-- `WasmSessionAeadKey::open` -/
def openCiphertext (key : AesGcmCrate.Key) (nonce : Nonce) (ciphertext : Bytes) :
    Effect Memory (Except Unit ByteVec) := do
  copiedFrom ciphertext
  Effect.guardedAborting dropBuffer <|
    Effect.orReturn (inPlace (AesGcmCrate.decryptInPlace key nonce)) fun _ => intoVec

/-- `encrypt_with_backend` -/
def encryptWithBackend (sessionKey : SessionKey) (nonce : Nonce) (plaintext : Bytes) :
    Effect Memory (Except Unit ByteVec) :=
  Effect.guardedAborting dropKey
    (sealWithPostCopy (AesGcmCrate.new sessionKey) nonce plaintext noPostCopy)

/-- `decrypt_with_backend` -/
def decryptWithBackend (sessionKey : SessionKey) (nonce : Nonce) (ciphertext : Bytes) :
    Effect Memory (Except Unit ByteVec) :=
  Effect.guardedAborting dropKey (openCiphertext (AesGcmCrate.new sessionKey) nonce ciphertext)

end Wasm

/-! ## what is left -/

theorem freed_dropBuffer (m : Memory) :
    (dropBuffer m).freed = m.freed ++ [List.replicate m.bytes.capacity 0] := by
  have hlen : (m.bytes.resizeToCapacity).len = m.bytes.capacity := rfl
  have hmemory : (m.bytes.resizeToCapacity).memory.length = m.bytes.capacity := m.bytes.length_resize
  have hzero : (m.bytes.resizeToCapacity).fillZero.memory = List.replicate m.bytes.capacity 0 := by
    unfold ByteVec.fillZero ByteVec.overwrite
    dsimp only
    rw [hlen, List.drop_of_length_le (by omega), List.append_nil]
    rfl
  rw [← hzero]
  rfl

/-- **What a call leaves.**  It gives back what the crate outgrew, and then the copy of its input:
nothing, where the copy is returned, and else wiped. -/
structure Wipes (grown : List Bytes → Prop) (keyDrops : ℕ) (m : Memory)
    (r : Except Panic (Except Unit ByteVec) × Memory) : Prop where
  freed : ∃ outgrown last, grown outgrown ∧ r.2.freed = m.freed ++ outgrown ++ [last] ∧
    (∀ byte ∈ last, byte = 0) ∧ ∀ v, r.1 = .ok (.ok v) → last = []
  bytes : r.2.bytes = .empty
  keyDrops : r.2.keyDrops = m.keyDrops + keyDrops

section
variable {grown : List Bytes → Prop} {m : Memory}

/-- a body that ended: either the vector was taken out, or its guard still owns it -/
inductive Ends (grown : List Bytes → Prop) (m : Memory) :
    Except Panic (Except Unit ByteVec) × Memory → Prop
  | taken (v : ByteVec) (outgrown : List Bytes) (h : grown outgrown) :
    Ends grown m (.ok (.ok v), ⟨.empty, m.freed ++ outgrown, m.keyDrops⟩)
  | kept (r : Except Panic (Except Unit ByteVec)) (v : ByteVec) (outgrown : List Bytes)
    (h : grown outgrown) (hr : ∀ v, r ≠ .ok (.ok v)) :
    Ends grown m (r, ⟨v, m.freed ++ outgrown, m.keyDrops⟩)

theorem Ends.wipes {r : Except Panic (Except Unit ByteVec) × Memory} (h : Ends grown m r) :
    Wipes grown 0 m (r.1, dropBuffer r.2) := by
  cases h with
  | taken v outgrown h =>
    refine ⟨⟨outgrown, [], h, ?_, ?_, ?_⟩, rfl, rfl⟩
    · rw [freed_dropBuffer]
      rfl
    · exact fun byte hbyte => absurd hbyte List.not_mem_nil
    · exact fun _ _ => rfl
  | kept result v outgrown h hr =>
    refine ⟨⟨outgrown, List.replicate v.capacity 0, h, ?_, ?_, ?_⟩, rfl, rfl⟩
    · rw [freed_dropBuffer]
    · exact fun byte hbyte => List.eq_of_mem_replicate hbyte
    · exact fun v hv => absurd hv (hr v)

theorem Wipes.dropKey {r : Except Panic (Except Unit ByteVec) × Memory} (h : Wipes grown 0 m r) :
    Wipes grown 1 m (r.1, dropKey r.2) :=
  ⟨h.freed, h.bytes, congrArg (· + 1) h.keyDrops⟩

end

section
variable {grown : List Bytes → Prop} {m : Memory} {α : Type}

/-- a call in place whose result ends the body or is followed by `rest` -/
theorem ends_inPlace {call : ByteVec → InPlace α} {rest : α → Effect Memory (Except Unit ByteVec)}
    {before : List Bytes} {v : ByteVec} (hgrown : grown (before ++ (call v).outgrown))
    (hrest : ∀ a, (call v).result = .ok (.ok a) → Ends grown m ((rest a).exec
      ⟨(call v).bytes, m.freed ++ (before ++ (call v).outgrown), m.keyDrops⟩)) :
    Ends grown m ((Effect.orReturn (inPlace call) rest).exec
      ⟨v, m.freed ++ before, m.keyDrops⟩) := by
  have hexec : (inPlace call).exec ⟨v, m.freed ++ before, m.keyDrops⟩ =
      ((call v).result, ⟨(call v).bytes, m.freed ++ (before ++ (call v).outgrown), m.keyDrops⟩) := by
    rw [← List.append_assoc]
    rfl
  cases hresult : (call v).result with
  | error p =>
    rw [hresult] at hexec
    rw [Effect.exec_orReturn_panic hexec]
    exact .kept _ _ _ hgrown fun v h => by cases h
  | ok result =>
    rw [hresult] at hexec
    cases result with
    | error e =>
      rw [Effect.exec_orReturn_error hexec]
      exact .kept _ _ _ hgrown fun v h => by cases h
    | ok a =>
      rw [Effect.exec_orReturn hexec]
      exact hrest a hresult

theorem ends_firstInPlace {call : ByteVec → InPlace α}
    {rest : α → Effect Memory (Except Unit ByteVec)} {v : ByteVec}
    (hgrown : grown (call v).outgrown) (hrest : ∀ a, (call v).result = .ok (.ok a) →
      Ends grown m ((rest a).exec ⟨(call v).bytes, m.freed ++ (call v).outgrown, m.keyDrops⟩)) :
    Ends grown m ((Effect.orReturn (inPlace call) rest).exec ⟨v, m.freed, m.keyDrops⟩) := by
  have h : Ends grown m ((Effect.orReturn (inPlace call) rest).exec
      ⟨v, m.freed ++ [], m.keyDrops⟩) := ends_inPlace hgrown hrest
  rw [List.append_nil] at h
  exact h

theorem ends_intoVec {v : ByteVec} {outgrown : List Bytes} (h : grown outgrown) :
    Ends grown m (intoVec.exec ⟨v, m.freed ++ outgrown, m.keyDrops⟩) := .taken v outgrown h

end

/-- what a call in place outgrew, when it was reached -/
def OutgrownBy {α : Type} (call : ByteVec → InPlace α) (outgrown : List Bytes) : Prop :=
  outgrown = [] ∨ ∃ v, outgrown = (call v).outgrown

/-- the step on the copy, and then a call in place -/
theorem ends_afterPostCopy {call : ByteVec → InPlace Unit} (postCopy : PostCopy) (m : Memory)
    (v : ByteVec) : Ends (OutgrownBy call) m ((Effect.orReturn (inSlice postCopy) fun _ =>
      Effect.orReturn (inPlace call) fun _ => intoVec).exec ⟨v, m.freed, m.keyDrops⟩) := by
  refine ends_firstInPlace (.inl rfl) fun _ _ => ?_
  refine ends_inPlace (.inr ⟨_, rfl⟩) fun _ _ => ?_
  exact ends_intoVec (.inr ⟨_, rfl⟩)

namespace Native

variable [AwsLc] (m : Memory) (nonce : Nonce)

/-- **Encryption wipes its copy**, whatever runs on it and however the crate ends. -/
theorem sealWithPostCopy_wipes (key : AwsLc.Key) (plaintext : Bytes) (postCopy : PostCopy) :
    Wipes (OutgrownBy (AwsLc.sealInPlaceAppendTag key nonce)) 0 m
      ((sealWithPostCopy key nonce plaintext postCopy).exec m) := by
  unfold sealWithPostCopy copiedFrom
  rw [Effect.exec_bind (Effect.exec_modify _ _), Effect.exec_guarded]
  exact (ends_afterPostCopy postCopy m (.copyOf plaintext)).wipes

/-- **And so does decryption.** -/
theorem openCiphertext_wipes (key : AwsLc.Key) (ciphertext : Bytes) :
    Wipes (· = []) 0 m ((openCiphertext key nonce ciphertext).exec m) := by
  unfold openCiphertext copiedFrom
  rw [Effect.exec_bind (Effect.exec_modify _ _), Effect.exec_guarded]
  refine Ends.wipes (ends_firstInPlace rfl fun _ _ => ?_)
  unfold truncateTo
  rw [Effect.exec_bind (Effect.exec_modify _ _)]
  exact ends_intoVec rfl

theorem withKey_wipes {grown : List Bytes → Prop} {sessionKey : SessionKey} {key : AwsLc.Key}
    (hkey : AwsLc.unboundKey sessionKey.1 = some key)
    {call : AwsLc.Key → Effect Memory (Except Unit ByteVec)}
    (h : Wipes grown 0 m ((call key).exec m)) :
    Wipes grown 1 m ((withKey sessionKey call).exec m) := by
  unfold withKey
  rw [hkey]
  exact h.dropKey

end Native

namespace Wasm

variable [AesGcmCrate] {m : Memory} {nonce : Nonce}

theorem sealWithPostCopy_wipes {key : AesGcmCrate.Key} {plaintext : Bytes} {postCopy : PostCopy}
    (h : ((sealWithPostCopy key nonce plaintext postCopy).exec m).1.isOk) :
    Wipes (OutgrownBy (AesGcmCrate.encryptInPlace key nonce)) 0 m
      ((sealWithPostCopy key nonce plaintext postCopy).exec m) := by
  unfold sealWithPostCopy copiedFrom at h ⊢
  rw [Effect.exec_bind (Effect.exec_modify _ _), Effect.exec_guardedAborting] at h ⊢
  rw [if_pos h]
  exact (ends_afterPostCopy postCopy m (.copyOf plaintext)).wipes

theorem openCiphertext_wipes {key : AesGcmCrate.Key} {ciphertext : Bytes}
    (h : ((openCiphertext key nonce ciphertext).exec m).1.isOk) :
    Wipes (OutgrownBy (AesGcmCrate.decryptInPlace key nonce)) 0 m
      ((openCiphertext key nonce ciphertext).exec m) := by
  unfold openCiphertext copiedFrom at h ⊢
  rw [Effect.exec_bind (Effect.exec_modify _ _), Effect.exec_guardedAborting] at h ⊢
  rw [if_pos h]
  refine Ends.wipes (ends_firstInPlace (.inr ⟨_, rfl⟩) fun _ _ => ?_)
  exact ends_intoVec (.inr ⟨_, rfl⟩)

theorem guardedAborting_wipes {grown : List Bytes → Prop}
    {call : Effect Memory (Except Unit ByteVec)} (hwipes : (call.exec m).1.isOk →
      Wipes grown 0 m (call.exec m)) (h : ((Effect.guardedAborting dropKey call).exec m).1.isOk) :
    Wipes grown 1 m ((Effect.guardedAborting dropKey call).exec m) := by
  rw [Effect.exec_guardedAborting] at h ⊢
  rw [if_pos h]
  exact (hwipes h).dropKey

end Wasm

/-- what both builds leave of a memory -/
structure Cleans [AwsLc] [AesGcmCrate] (sessionKey : SessionKey) (nonce : Nonce) (m : Memory) :
    Prop where
  /-- the copy is wiped also where the step on it or the crate fails or panics -/
  nativeSeal (key : AwsLc.Key) (plaintext : Bytes) (postCopy : PostCopy) :
    Wipes (OutgrownBy (AwsLc.sealInPlaceAppendTag key nonce)) 0 m
      ((Native.sealWithPostCopy key nonce plaintext postCopy).exec m)
  /-- a call drops its key once -/
  nativeEncrypt {key : AwsLc.Key} (hkey : AwsLc.unboundKey sessionKey.1 = some key)
    (plaintext : Bytes) : Wipes (OutgrownBy (AwsLc.sealInPlaceAppendTag key nonce)) 1 m
      ((Native.encryptWithBackend sessionKey nonce plaintext).exec m)
  nativeDecrypt {key : AwsLc.Key} (hkey : AwsLc.unboundKey sessionKey.1 = some key)
    (ciphertext : Bytes) :
    Wipes (· = []) 1 m ((Native.decryptWithBackend sessionKey nonce ciphertext).exec m)
  /-- nothing is copied for a key that is refused -/
  nativeNoKey (hkey : AwsLc.unboundKey sessionKey.1 = none) (bytes : Bytes) :
    (Native.encryptWithBackend sessionKey nonce bytes).exec m = (.ok (.error ()), m) ∧
      (Native.decryptWithBackend sessionKey nonce bytes).exec m = (.ok (.error ()), m)
  /-- a panic ends the wasm build, and every call that returns has wiped its copy -/
  wasmSeal (key : AesGcmCrate.Key) (plaintext : Bytes) (postCopy : PostCopy)
    (h : ((Wasm.sealWithPostCopy key nonce plaintext postCopy).exec m).1.isOk) :
    Wipes (OutgrownBy (AesGcmCrate.encryptInPlace key nonce)) 0 m
      ((Wasm.sealWithPostCopy key nonce plaintext postCopy).exec m)
  wasmEncrypt (plaintext : Bytes)
    (h : ((Wasm.encryptWithBackend sessionKey nonce plaintext).exec m).1.isOk) :
    Wipes (OutgrownBy (AesGcmCrate.encryptInPlace (AesGcmCrate.new sessionKey) nonce)) 1 m
      ((Wasm.encryptWithBackend sessionKey nonce plaintext).exec m)
  wasmDecrypt (ciphertext : Bytes)
    (h : ((Wasm.decryptWithBackend sessionKey nonce ciphertext).exec m).1.isOk) :
    Wipes (OutgrownBy (AesGcmCrate.decryptInPlace (AesGcmCrate.new sessionKey) nonce)) 1 m
      ((Wasm.decryptWithBackend sessionKey nonce ciphertext).exec m)

/-- **No copy of a plaintext is left**: whatever the crates do with the copies, and whatever the step
after the copying does, every copy that is not returned is wiped before its allocation is given
back, and the key is dropped once. -/
theorem wiped [AwsLc] [AesGcmCrate] (sessionKey : SessionKey) (nonce : Nonce) (m : Memory) :
    Cleans sessionKey nonce m where
  nativeSeal := Native.sealWithPostCopy_wipes m nonce
  nativeEncrypt {key} hkey plaintext :=
    Native.withKey_wipes m hkey (Native.sealWithPostCopy_wipes m nonce key plaintext noPostCopy)
  nativeDecrypt {key} hkey ciphertext :=
    Native.withKey_wipes m hkey (Native.openCiphertext_wipes m nonce key ciphertext)
  nativeNoKey hkey bytes := by
    unfold Native.encryptWithBackend Native.decryptWithBackend Native.withKey
    rw [hkey]
    exact ⟨rfl, rfl⟩
  wasmSeal _ _ _ := Wasm.sealWithPostCopy_wipes
  wasmEncrypt _ := Wasm.guardedAborting_wipes Wasm.sealWithPostCopy_wipes
  wasmDecrypt _ := Wasm.guardedAborting_wipes Wasm.openCiphertext_wipes

/-! ## what is returned -/

/-- the contents that a call returns, or that it fails; a panic returns nothing -/
def returned (r : Except Panic (Except Unit ByteVec) × Memory) : Option (Option Bytes) :=
  match r.1 with
  | .ok (.ok v) => some (some v.contents)
  | .ok (.error ()) => some none
  | .error _ => none

/-- a call in place that makes the contents those of `output`, or fails -/
def Makes (output : Option Bytes) (r : InPlace Unit) : Prop :=
  match output with
  | some bytes => r.result = .ok (.ok ()) ∧ r.bytes.contents = bytes
  | none => r.result = .ok (.error ())

/-- a call on a slice that leaves `output` at its start, or fails -/
def MakesStart (output : Option Bytes) {n : ℕ} (r : Except Panic (Except Unit ℕ) × Buffer n) : Prop :=
  match output with
  | some bytes => r.1 = .ok (.ok bytes.length) ∧ r.2.1.take bytes.length = bytes
  | none => r.1 = .ok (.error ())

/-- `aws-lc-rs` is the AEAD: keys of 32 bytes are keys, sealing appends the tag, and an opened
plaintext stands before it -/
class LawfulAwsLc [AwsLc] (aead : AesGcm) : Prop where
  exists_key (sessionKey : SessionKey) : ∃ key, AwsLc.unboundKey sessionKey.1 = some key
  seals {sessionKey : SessionKey} {key : AwsLc.Key} (nonce : Nonce) (v : ByteVec) :
    AwsLc.unboundKey sessionKey.1 = some key →
      Makes (aead.encryptWithBackend sessionKey nonce v.contents)
        (AwsLc.sealInPlaceAppendTag key nonce v)
  opens {sessionKey : SessionKey} {key : AwsLc.Key} (nonce : Nonce) (v : ByteVec) :
    AwsLc.unboundKey sessionKey.1 = some key →
      MakesStart (aead.decryptWithBackend sessionKey nonce v.contents) (AwsLc.openInPlace key nonce v)

/-- `aes-gcm` is the AEAD: it leaves the ciphertext with its tag, or the plaintext alone -/
class LawfulAesGcmCrate [AesGcmCrate] (aead : AesGcm) : Prop where
  seals (sessionKey : SessionKey) (nonce : Nonce) (v : ByteVec) :
    Makes (aead.encryptWithBackend sessionKey nonce v.contents)
      (AesGcmCrate.encryptInPlace (AesGcmCrate.new sessionKey) nonce v)
  opens (sessionKey : SessionKey) (nonce : Nonce) (v : ByteVec) :
    Makes (aead.decryptWithBackend sessionKey nonce v.contents)
      (AesGcmCrate.decryptInPlace (AesGcmCrate.new sessionKey) nonce v)

theorem ByteVec.contents_copyOf (bytes : Bytes) : (ByteVec.copyOf bytes).contents = bytes :=
  List.take_length

theorem ByteVec.overwrite_contents (v : ByteVec) :
    v.overwrite ⟨v.contents, v.length_contents⟩ = v := by
  have hmemory : v.contents ++ v.memory.drop v.len = v.memory := List.take_append_drop _ _
  unfold ByteVec.overwrite
  simp only [hmemory]

section
variable {m : Memory} {v : ByteVec} {output : Option Bytes}

theorem returned_inPlace {call : ByteVec → InPlace Unit} (h : Makes output (call v)) :
    returned ((Effect.orReturn (inPlace call) fun _ => intoVec).exec { m with bytes := v }) =
      some output := by
  have hexec : (inPlace call).exec { m with bytes := v } = ((call v).result,
      { m with bytes := (call v).bytes, freed := m.freed ++ (call v).outgrown }) := rfl
  cases output with
  | none =>
    rw [show (call v).result = .ok (.error ()) from h] at hexec
    rw [Effect.exec_orReturn_error hexec]
    rfl
  | some bytes =>
    obtain ⟨hresult, hbytes⟩ := h
    rw [hresult] at hexec
    rw [Effect.exec_orReturn hexec, ← hbytes]
    rfl

/-- without a step on the copy -/
theorem returned_afterNoPostCopy {call : ByteVec → InPlace Unit} (h : Makes output (call v)) :
    returned ((Effect.orReturn (inSlice noPostCopy) fun _ =>
      Effect.orReturn (inPlace call) fun _ => intoVec).exec { m with bytes := v }) =
        some output := by
  have hexec : (inSlice noPostCopy).exec { m with bytes := v } =
      (.ok (.ok ()), { m with bytes := v, freed := m.freed ++ [] }) := by
    show (_, { m with
      bytes := v.overwrite ⟨v.contents, v.length_contents⟩
      freed := m.freed ++ [] }) = _
    rw [v.overwrite_contents]
    rfl
  rw [Effect.exec_orReturn hexec]
  exact returned_inPlace (m := { m with freed := m.freed ++ [] }) h

theorem returned_openSlice
    {call : (v : ByteVec) → Except Panic (Except Unit ℕ) × Buffer v.len}
    (h : MakesStart output (call v)) :
    returned ((Effect.orReturn (inSlice call) fun plaintextLen => do
      truncateTo plaintextLen
      intoVec).exec { m with bytes := v }) = some output := by
  have hexec : (inSlice call).exec { m with bytes := v } = ((call v).1,
      { m with bytes := v.overwrite (call v).2, freed := m.freed ++ [] }) := rfl
  cases output with
  | none =>
    rw [show (call v).1 = .ok (.error ()) from h] at hexec
    rw [Effect.exec_orReturn_error hexec]
    rfl
  | some bytes =>
    obtain ⟨hresult, hbytes⟩ := h
    rw [hresult] at hexec
    rw [Effect.exec_orReturn hexec]
    have hle : bytes.length ≤ v.len := by
      have hlength := congrArg List.length hbytes
      rw [List.length_take, (call v).2.2] at hlength
      omega
    have hcontents : ((v.overwrite (call v).2).truncate bytes.length).contents = bytes := by
      show List.take (min bytes.length v.len) ((call v).2.1 ++ v.memory.drop v.len) = bytes
      rw [Nat.min_eq_left hle, List.take_append_of_le_length (by rw [(call v).2.2]; exact hle), hbytes]
    show some (some ((v.overwrite (call v).2).truncate bytes.length).contents) = _
    rw [hcontents]

end

section
variable {m : Memory} {nonce : Nonce} {bytes : Bytes} {output : Option Bytes}

theorem Native.returned_withKey [AwsLc] {sessionKey : SessionKey} {key : AwsLc.Key}
    (hkey : AwsLc.unboundKey sessionKey.1 = some key)
    {call : AwsLc.Key → Effect Memory (Except Unit ByteVec)}
    (h : returned ((call key).exec m) = some output) :
    returned ((Native.withKey sessionKey call).exec m) = some output := by
  unfold Native.withKey
  rw [hkey]
  exact h

theorem Native.returned_seal [AwsLc] {key : AwsLc.Key}
    (h : Makes output (AwsLc.sealInPlaceAppendTag key nonce (.copyOf bytes))) :
    returned ((Native.sealWithPostCopy key nonce bytes noPostCopy).exec m) = some output := by
  unfold Native.sealWithPostCopy copiedFrom
  rw [Effect.exec_bind (Effect.exec_modify _ _), Effect.exec_guarded]
  exact returned_afterNoPostCopy h

theorem Native.returned_open [AwsLc] {key : AwsLc.Key}
    (h : MakesStart output (AwsLc.openInPlace key nonce (.copyOf bytes))) :
    returned ((Native.openCiphertext key nonce bytes).exec m) = some output := by
  unfold Native.openCiphertext copiedFrom
  rw [Effect.exec_bind (Effect.exec_modify _ _), Effect.exec_guarded]
  exact returned_openSlice h

theorem Wasm.returned_seal [AesGcmCrate] {key : AesGcmCrate.Key}
    (h : Makes output (AesGcmCrate.encryptInPlace key nonce (.copyOf bytes))) :
    returned ((Wasm.sealWithPostCopy key nonce bytes noPostCopy).exec m) = some output := by
  unfold Wasm.sealWithPostCopy copiedFrom
  rw [Effect.exec_bind (Effect.exec_modify _ _), Effect.exec_guardedAborting]
  exact returned_afterNoPostCopy h

theorem Wasm.returned_open [AesGcmCrate] {key : AesGcmCrate.Key}
    (h : Makes output (AesGcmCrate.decryptInPlace key nonce (.copyOf bytes))) :
    returned ((Wasm.openCiphertext key nonce bytes).exec m) = some output := by
  unfold Wasm.openCiphertext copiedFrom
  rw [Effect.exec_bind (Effect.exec_modify _ _), Effect.exec_guardedAborting]
  exact returned_inPlace h

end

/-- **The two builds compute the same**, from any memory and without a panic: the functions that the
sessions call are the AEAD of the crates, in the native build as in the wasm one. -/
theorem backends_agree [AwsLc] [AesGcmCrate] (aead : AesGcm) [LawfulAwsLc aead]
    [LawfulAesGcmCrate aead] (m : Memory) (key : SessionKey) (nonce : Nonce) (bytes : Bytes) :
    (returned ((Native.encryptWithBackend key nonce bytes).exec m) =
        some (aead.encryptWithBackend key nonce bytes) ∧
      returned ((Native.decryptWithBackend key nonce bytes).exec m) =
        some (aead.decryptWithBackend key nonce bytes)) ∧
    (returned ((Wasm.encryptWithBackend key nonce bytes).exec m) =
        some (aead.encryptWithBackend key nonce bytes) ∧
      returned ((Wasm.decryptWithBackend key nonce bytes).exec m) =
        some (aead.decryptWithBackend key nonce bytes)) := by
  obtain ⟨k, hk⟩ := LawfulAwsLc.exists_key aead key
  have hseal : Makes (aead.encryptWithBackend key nonce (ByteVec.copyOf bytes).contents) _ :=
    LawfulAwsLc.seals nonce (.copyOf bytes) hk
  have hopen : MakesStart (aead.decryptWithBackend key nonce (ByteVec.copyOf bytes).contents) _ :=
    LawfulAwsLc.opens nonce (.copyOf bytes) hk
  have hencrypt : Makes (aead.encryptWithBackend key nonce (ByteVec.copyOf bytes).contents) _ :=
    LawfulAesGcmCrate.seals key nonce (.copyOf bytes)
  have hdecrypt : Makes (aead.decryptWithBackend key nonce (ByteVec.copyOf bytes).contents) _ :=
    LawfulAesGcmCrate.opens key nonce (.copyOf bytes)
  rw [ByteVec.contents_copyOf] at hseal hopen hencrypt hdecrypt
  refine ⟨⟨?_, ?_⟩, ?_, ?_⟩
  · exact Native.returned_withKey hk (Native.returned_seal hseal)
  · exact Native.returned_withKey hk (Native.returned_open hopen)
  · exact Wasm.returned_seal hencrypt
  · exact Wasm.returned_open hdecrypt

/-! ## in place -/

section
open scoped Reference

namespace Sample

theorem length_decrypt {key : SessionKey} {nonce : Nonce} {message plaintext : Bytes}
    (h : AesGcm.decryptWithBackend key nonce message = some plaintext) :
    plaintext.length ≤ message.length := by
  have hdecrypt : Gcm.decrypt key.1 nonce.1 message = some plaintext := h
  unfold Gcm.decrypt at hdecrypt
  split at hdecrypt
  · cases hdecrypt
  · dsimp only at hdecrypt
    split at hdecrypt
    · cases hdecrypt
      rw [Gcm.length_xorKeystream, List.length_take]
      exact Nat.min_le_right _ _
    · cases hdecrypt

/-- a call in place: the vector is replaced, and its allocation outgrown -/
def replaceBy (v : ByteVec) : Option Bytes → InPlace Unit
  | some bytes => ⟨.ok (.ok ()), .copyOf bytes, [v.memory]⟩
  | none => ⟨.ok (.error ()), v, []⟩

theorem makes_replaceBy (v : ByteVec) (output : Option Bytes) : Makes output (replaceBy v output) := by
  cases output with
  | none => exact rfl
  | some bytes => exact ⟨rfl, ByteVec.contents_copyOf bytes⟩

theorem length_startWith (v : ByteVec) (bytes : Bytes) :
    ((bytes ++ v.memory).take v.len).length = v.len := by
  rw [List.length_take, List.length_append]
  exact Nat.min_eq_left (Nat.le_trans v.inBounds (Nat.le_add_left _ _))

/-- a call on a slice: `output` at its start -/
def startWith (v : ByteVec) : Option Bytes → Except Panic (Except Unit ℕ) × Buffer v.len
  | some bytes => (.ok (.ok bytes.length), ⟨(bytes ++ v.memory).take v.len, length_startWith v bytes⟩)
  | none => (.ok (.error ()), ⟨v.contents, v.length_contents⟩)

theorem makesStart_startWith (v : ByteVec) {output : Option Bytes}
    (h : ∀ bytes, output = some bytes → bytes.length ≤ v.len) :
    MakesStart output (startWith v output) := by
  cases output with
  | none => exact rfl
  | some bytes =>
    refine ⟨rfl, ?_⟩
    show ((bytes ++ v.memory).take v.len).take bytes.length = bytes
    rw [List.take_take, Nat.min_eq_left (h bytes rfl), List.take_left]

@[reducible] def awsLc : AwsLc where
  Key := SessionKey
  unboundKey bytes := if h : bytes.length = 32 then some ⟨bytes, h⟩ else none
  sealInPlaceAppendTag key nonce v :=
    replaceBy v (AesGcm.encryptWithBackend key nonce v.contents)
  openInPlace key nonce v := startWith v (AesGcm.decryptWithBackend key nonce v.contents)

@[reducible] def aesGcmCrate : AesGcmCrate where
  Key := SessionKey
  new key := key
  encryptInPlace key nonce v := replaceBy v (AesGcm.encryptWithBackend key nonce v.contents)
  decryptInPlace key nonce v := replaceBy v (AesGcm.decryptWithBackend key nonce v.contents)

theorem lawfulAwsLc : @LawfulAwsLc awsLc Reference.lawfulAesGcm.toAesGcm := by
  have hkey (sessionKey : SessionKey) : awsLc.unboundKey sessionKey.1 = some sessionKey :=
    dif_pos sessionKey.2
  let _ := awsLc
  refine ⟨fun sessionKey => ⟨sessionKey, hkey sessionKey⟩, fun nonce v h => ?_, fun nonce v h => ?_⟩
  · rw [hkey] at h
    cases h
    exact makes_replaceBy v _
  · rw [hkey] at h
    cases h
    exact makesStart_startWith v fun bytes hbytes => v.length_contents ▸ length_decrypt hbytes

theorem lawfulAesGcmCrate :
    @LawfulAesGcmCrate aesGcmCrate Reference.lawfulAesGcm.toAesGcm := by
  let _ := aesGcmCrate
  exact ⟨fun _ _ v => makes_replaceBy v _, fun _ _ v => makes_replaceBy v _⟩

def key : SessionKey := ⟨List.replicate 32 7, rfl⟩
def nonce : Nonce := ⟨List.replicate 12 9, rfl⟩
def memory : Memory := ⟨.empty, [], 0⟩

end Sample

/-- the ciphertext that the AEAD has for three bytes -/
def Sample.ciphertext : Bytes :=
  (Reference.lawfulAesGcm.encryptWithBackend Sample.key Sample.nonce [1, 2, 3]).getD []

/-- Three bytes are encrypted and decrypted, in both builds. -/
theorem backends_agree_sample :
    letI := Sample.awsLc
    letI := Sample.aesGcmCrate
    (returned ((Native.encryptWithBackend Sample.key Sample.nonce [1, 2, 3]).exec Sample.memory) =
        some (some Sample.ciphertext) ∧
      returned ((Native.decryptWithBackend Sample.key Sample.nonce Sample.ciphertext).exec
        Sample.memory) = some (some [1, 2, 3])) ∧
    (returned ((Wasm.encryptWithBackend Sample.key Sample.nonce [1, 2, 3]).exec Sample.memory) =
        some (some Sample.ciphertext) ∧
      returned ((Wasm.decryptWithBackend Sample.key Sample.nonce Sample.ciphertext).exec
        Sample.memory) = some (some [1, 2, 3])) := by
  let _ := Sample.awsLc
  let _ := Sample.aesGcmCrate
  have _ := Sample.lawfulAwsLc
  have _ := Sample.lawfulAesGcmCrate
  have hencrypt : Reference.lawfulAesGcm.encryptWithBackend Sample.key Sample.nonce [1, 2, 3] =
      some Sample.ciphertext := rfl
  have hdecrypt := Reference.lawfulAesGcm.decrypt_encrypt hencrypt
  obtain ⟨⟨hnativeEnc, -⟩, hwasmEnc, -⟩ :=
    backends_agree Reference.lawfulAesGcm.toAesGcm Sample.memory Sample.key Sample.nonce [1, 2, 3]
  obtain ⟨⟨-, hnativeDec⟩, -, hwasmDec⟩ :=
    backends_agree Reference.lawfulAesGcm.toAesGcm Sample.memory Sample.key Sample.nonce
      Sample.ciphertext
  rw [hencrypt] at hnativeEnc hwasmEnc
  rw [hdecrypt] at hnativeDec hwasmDec
  exact ⟨⟨hnativeEnc, hnativeDec⟩, hwasmEnc, hwasmDec⟩

end

end Aead

end Isomdl
