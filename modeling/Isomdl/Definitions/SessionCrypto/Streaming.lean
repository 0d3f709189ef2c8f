import Isomdl.Definitions.SessionCrypto
import Isomdl.Lib.Blocks
import Isomdl.Lib.Checked

/-!
# `SecureSha256`, update by update (`definitions/session_crypto.rs`)

`update` fills the buffer that earlier calls left, compresses full blocks straight from its
argument, and keeps the rest.  `finish` pads what is kept, in the buffer.  `Absorbed` says what a
hash knows of the bytes so far.

* `update_spec`            one more piece is absorbed;
* `finish_spec`            the digest of what was absorbed;
* `chunked_eq_oneShot`     any sequence of updates is the hash of the bytes at once.
-/

namespace Isomdl

open Checked SecureHash

def SHA256_INITIAL_STATE : List Nat :=
  [0x6a09e667, 0xbb67ae85, 0x3c6ef372, 0xa54ff53a, 0x510e527f, 0x9b05688c, 0x1f83d9ab, 0x5be0cd19]

/-- the compression of a block -/
def compressBlock (state : SecureHash.State 32) (block : Bytes) : SecureHash.State 32 :=
  compress variant32 state ((chunks 4 block).map fun bs => BitVec.ofNat 32 (ofBe bs))

/-- `sha2::compress256` of one block; `GenericArray::from_slice` takes nothing but a block -/
def compress256 (state : SecureHash.State 32) (block : Bytes) :
    Except Panic (SecureHash.State 32) :=
  if block.length = SHA256_BLOCK_BYTES then .ok (compressBlock state block)
  else .error .lengthMismatch

structure SecureSha256 where
  state : SecureHash.State 32
  buffer : Buffer SHA256_BLOCK_BYTES
  bufferLen : Nat
  messageLen : Nat

namespace SecureSha256

def new : SecureSha256 where
  state := .ofWords SHA256_INITIAL_STATE
  buffer := .zero SHA256_BLOCK_BYTES
  bufferLen := 0
  messageLen := 0

/-- `compress_buffer` -/
def compressBuffer (self : SecureSha256) : Except Panic SecureSha256 := do
  let state ← compress256 self.state self.buffer.1
  return { self with state, buffer := .zero SHA256_BLOCK_BYTES, bufferLen := 0 }

/-- the first part of `update`: bytes that complete what is kept -/
def fillBuffer (self : SecureSha256) (data : Bytes) : Except Panic (SecureSha256 × Bytes) :=
  if self.bufferLen ≠ 0 then do
    let space ← Checked.sub SHA256_BLOCK_BYTES self.bufferLen
    let copied := min space data.length
    let src ← slice data 0 copied
    let buffer ← self.buffer.copyFromSlice self.bufferLen (self.bufferLen + copied) src
    let data ← slice data copied data.length
    let self := { self with buffer, bufferLen := self.bufferLen + copied }
    if self.bufferLen = SHA256_BLOCK_BYTES then do
      let self ← self.compressBuffer
      return (self, data)
    else return (self, data)
  else return (self, data)

/-- the loop of `update`; `split_at` is in range by the condition of the loop -/
def compressBlocks (state : SecureHash.State 32) (data : Bytes) :
    Except Panic (SecureHash.State 32 × Bytes) :=
  if SHA256_BLOCK_BYTES ≤ data.length then do
    let state ← compress256 state (data.take SHA256_BLOCK_BYTES)
    compressBlocks state (data.drop SHA256_BLOCK_BYTES)
  else return (state, data)
termination_by data.length
decreasing_by
  rw [List.length_drop]
  unfold SHA256_BLOCK_BYTES at *
  omega

/-- the end of `update` -/
def keep (self : SecureSha256) (data : Bytes) : Except Panic SecureSha256 :=
  if data.isEmpty then return self
  else do
    let buffer ← self.buffer.copyFromSlice 0 data.length data
    return { self with buffer, bufferLen := data.length }

def update (self : SecureSha256) (data : Bytes) : Except Panic SecureSha256 := do
  let dataLen ← expect "SHA-256 input exceeds u64"
    (if data.length < 2 ^ 64 then some data.length else none)
  let messageLen ← expect "SHA-256 input length overflow" (checkedAdd self.messageLen dataLen)
  let (self, data) ← { self with messageLen }.fillBuffer data
  let (state, data) ← compressBlocks self.state data
  { self with state }.keep data

/-- the digest loop of `finish` -/
def writeWords (state : SecureHash.State 32) : Except Panic (Buffer 32) :=
  state.words.zipIdx.foldlM (fun digest p =>
    digest.copyFromSlice (p.2 * 4) ((p.2 + 1) * 4) (beBytes 4 p.1.toNat)) (.zero 32)

/-- where `finish` makes room for the length -/
def closeBlock (self : SecureSha256) : Except Panic SecureSha256 :=
  if 56 < self.bufferLen then do
    let buffer ← self.buffer.fill self.bufferLen SHA256_BLOCK_BYTES 0
    { self with buffer }.compressBuffer
  else return self

/-- `finish`; the hash goes out of scope, so that nothing sees what `clear` leaves of it -/
def finish (self : SecureSha256) : Except Panic (Buffer 32) := do
  let bitLen ← expect "SHA-256 bit length overflow" (checkedMul self.messageLen 8)
  let buffer ← self.buffer.set self.bufferLen 0x80
  let self ← { self with buffer, bufferLen := self.bufferLen + 1 }.closeBlock
  let buffer ← self.buffer.fill self.bufferLen 56 0
  let buffer ← buffer.copyFromSlice 56 SHA256_BLOCK_BYTES (beBytes 8 bitLen)
  let self ← { self with buffer, bufferLen := SHA256_BLOCK_BYTES }.compressBuffer
  writeWords self.state

/-- `new`, one `update` for each part, `finish` -/
def hashParts (parts : List Bytes) : Except Panic (Buffer 32) := do
  let self ← parts.foldlM update new
  self.finish

/-! ## the steps of an update -/

theorem compress256_eq {state : SecureHash.State 32} {block : Bytes}
    (h : block.length = SHA256_BLOCK_BYTES) :
    compress256 state block = .ok (compressBlock state block) := if_pos h

/-- the hash after a compression of the whole buffer -/
def compressed (self : SecureSha256) : SecureSha256 :=
  { self with
    state := compressBlock self.state self.buffer.1
    buffer := .zero SHA256_BLOCK_BYTES
    bufferLen := 0 }

theorem compressBuffer_eq (self : SecureSha256) : self.compressBuffer = .ok self.compressed := by
  rw [compressBuffer, compress256_eq self.buffer.2]
  rfl

theorem blockBytes_pos : 0 < SHA256_BLOCK_BYTES := by decide

/-- the state after the full blocks of a stream, and what is left -/
abbrev absorb (state : SecureHash.State 32) (data : Bytes) : SecureHash.State 32 × Bytes :=
  Blocks.absorb SHA256_BLOCK_BYTES compressBlock state data

/-- **The loop compresses the full blocks.** -/
theorem compressBlocks_eq (state : SecureHash.State 32) (data : Bytes) :
    compressBlocks state data = .ok (absorb state data) := by
  induction data using Blocks.induction blockBytes_pos generalizing state with
  | short data h =>
    rw [compressBlocks, if_neg (by omega), absorb, Blocks.absorb_of_lt h]
    rfl
  | block block data h ih =>
    have hle : SHA256_BLOCK_BYTES ≤ (block ++ data).length := by
      rw [List.length_append]
      omega
    rw [compressBlocks, if_pos hle, List.take_left' h, List.drop_left' h, compress256_eq h, ok_bind,
      ih, absorb, absorb, Blocks.absorb_block_append blockBytes_pos h]

/-- the bytes that wait in the buffer -/
def live (self : SecureSha256) : Bytes := self.buffer.1.take self.bufferLen

theorem length_live {self : SecureSha256} (h : self.bufferLen ≤ SHA256_BLOCK_BYTES) :
    self.live.length = self.bufferLen := by
  rw [live, List.length_take, self.buffer.2]
  omega

/-- a full buffer is its bytes -/
theorem live_of_full {self : SecureSha256} (h : self.bufferLen = SHA256_BLOCK_BYTES) :
    self.live = self.buffer.1 := by
  rw [live, h]
  exact List.take_of_length_le (by rw [self.buffer.2])

/-- compressing a full buffer absorbs it -/
theorem absorb_full (self : SecureSha256) (h : self.bufferLen = SHA256_BLOCK_BYTES)
    (data : Bytes) :
    absorb self.state (self.live ++ data) =
      absorb self.compressed.state (self.compressed.live ++ data) := by
  rw [live_of_full h]
  exact Blocks.absorb_block_append blockBytes_pos self.buffer.2 data self.state

/-- **Filling the buffer absorbs nothing new**: what is kept and the bytes to come are the same
stream, and either nothing is kept or nothing is to come. -/
theorem fillBuffer_spec (self : SecureSha256) (h : self.bufferLen < SHA256_BLOCK_BYTES)
    (data : Bytes) : ∃ self' data', self.fillBuffer data = .ok (self', data') ∧
      self'.bufferLen < SHA256_BLOCK_BYTES ∧ (self'.bufferLen = 0 ∨ data' = []) ∧
      self'.messageLen = self.messageLen ∧
      absorb self'.state (self'.live ++ data') = absorb self.state (self.live ++ data) := by
  by_cases hkept : self.bufferLen = 0
  · refine ⟨self, data, ?_, h, .inl hkept, rfl, rfl⟩
    rw [fillBuffer, if_neg (not_not_intro hkept)]
    rfl
  · have hspace := Checked.sub_eq (Nat.le_of_lt h)
    rw [fillBuffer, if_pos hkept, hspace, ok_bind]
    dsimp only
    generalize hcopied : min (SHA256_BLOCK_BYTES - self.bufferLen) data.length = copied
    have hsrc : (data.take copied).length = copied := by
      rw [List.length_take]
      omega
    obtain ⟨buffer, hbuffer, hbytes⟩ := Buffer.copyFromSlice_take self.buffer
      (show self.bufferLen + (data.take copied).length = self.bufferLen + copied by rw [hsrc])
      (show self.bufferLen + copied ≤ SHA256_BLOCK_BYTES by omega)
    rw [slice_to (by omega), ok_bind, hbuffer, ok_bind, slice_from (by omega), ok_bind]
    have hstream :
        live { self with buffer := buffer, bufferLen := self.bufferLen + copied } ++
          data.drop copied = self.live ++ data := by
      show buffer.1.take (self.bufferLen + copied) ++ data.drop copied = _
      rw [hbytes, live, List.append_assoc, List.take_append_drop]
    -- the block is full, or the data has run out
    by_cases hfull : self.bufferLen + copied = SHA256_BLOCK_BYTES
    · rw [if_pos hfull, compressBuffer_eq, ok_bind]
      have habsorb := absorb_full
        { self with buffer := buffer, bufferLen := self.bufferLen + copied } hfull
        (data.drop copied)
      rw [hstream] at habsorb
      exact ⟨_, _, rfl, blockBytes_pos, .inl rfl, rfl, habsorb.symm⟩
    · rw [if_neg hfull]
      have hlt : self.bufferLen + copied < SHA256_BLOCK_BYTES := by omega
      have hnil : data.drop copied = [] := List.drop_eq_nil_of_le (by omega)
      exact ⟨_, _, rfl, hlt, .inr hnil, rfl, congrArg (absorb self.state) hstream⟩

/-- bytes that wait do not meet bytes to come -/
theorem absorb_live {self : SecureSha256} {data : Bytes}
    (h : self.bufferLen < SHA256_BLOCK_BYTES) (hone : self.bufferLen = 0 ∨ data = []) :
    absorb self.state (self.live ++ data) =
      ((absorb self.state data).1, self.live ++ (absorb self.state data).2) := by
  rcases hone with hzero | rfl
  · have hlive : self.live = [] := by
      rw [live, hzero]
      rfl
    rw [hlive]
    rfl
  · have hlive : self.live.length < SHA256_BLOCK_BYTES := by
      rw [length_live (Nat.le_of_lt h)]
      exact h
    rw [List.append_nil, absorb, absorb, Blocks.absorb_of_lt hlive,
      Blocks.absorb_of_lt (show ([] : Bytes).length < _ from blockBytes_pos), List.append_nil]

/-- **What is left of a piece is kept.** -/
theorem keep_spec (self : SecureSha256) {data : Bytes} (h : self.bufferLen < SHA256_BLOCK_BYTES)
    (hdata : data.length < SHA256_BLOCK_BYTES) (hone : self.bufferLen = 0 ∨ data = []) :
    ∃ self', self.keep data = .ok self' ∧ self'.bufferLen < SHA256_BLOCK_BYTES ∧
      self'.state = self.state ∧ self'.messageLen = self.messageLen ∧
      self'.live = self.live ++ data := by
  cases data with
  | nil => exact ⟨self, rfl, h, rfl, rfl, (List.append_nil _).symm⟩
  | cons byte data =>
    have hzero : self.bufferLen = 0 := hone.resolve_right (List.cons_ne_nil byte data)
    obtain ⟨buffer, hbuffer, hbytes⟩ := Buffer.copyFromSlice_take self.buffer
      (Nat.zero_add (byte :: data).length) (Nat.le_of_lt hdata)
    refine ⟨{ self with buffer := buffer, bufferLen := (byte :: data).length }, ?_, hdata, rfl, rfl,
      ?_⟩
    · rw [keep, if_neg (by simp), hbuffer]
      rfl
    · rw [live, live, hzero]
      exact hbytes

/-! ## updates -/

/-- what a hash knows of the bytes that it was given -/
structure Absorbed (message : Bytes) (hash : SecureSha256) : Prop where
  bufferLen_lt : hash.bufferLen < SHA256_BLOCK_BYTES
  absorb_eq : absorb new.state message = (hash.state, hash.live)
  messageLen_eq : hash.messageLen = message.length

theorem absorbed_new : Absorbed [] new where
  bufferLen_lt := blockBytes_pos
  absorb_eq := Blocks.absorb_of_lt blockBytes_pos _
  messageLen_eq := rfl

/-- a message goes on where the hash stands -/
theorem Absorbed.absorb_append {message : Bytes} {hash : SecureSha256} (h : Absorbed message hash)
    (data : Bytes) : absorb new.state (message ++ data) = absorb hash.state (hash.live ++ data) := by
  have happend : absorb new.state (message ++ data) =
      absorb (absorb new.state message).1 ((absorb new.state message).2 ++ data) :=
    Blocks.absorb_append blockBytes_pos message data new.state
  rw [h.absorb_eq] at happend
  exact happend

/-- what does not fill a block is kept -/
theorem Absorbed.bufferLen_eq {message : Bytes} {hash : SecureSha256} (h : Absorbed message hash) :
    hash.bufferLen = message.length % 64 := by
  have hlive : (absorb new.state message).2.length = hash.live.length := by rw [h.absorb_eq]
  rw [absorb, Blocks.length_absorb, length_live (Nat.le_of_lt h.bufferLen_lt)] at hlive
  exact hlive.symm

/-- **One more piece is absorbed**, whatever its length. -/
theorem update_spec {message data : Bytes} {hash : SecureSha256} (h : Absorbed message hash)
    (hlength : message.length + data.length < 2 ^ 64) :
    ∃ hash', hash.update data = .ok hash' ∧ Absorbed (message ++ data) hash' := by
  have hadd : checkedAdd hash.messageLen data.length = some (message.length + data.length) := by
    rw [h.messageLen_eq]
    exact if_pos hlength
  obtain ⟨filled, left, hfill, hlt, hone, hlen, hstream⟩ :=
    fillBuffer_spec { hash with messageLen := message.length + data.length } h.bufferLen_lt data
  have hrest : (absorb filled.state left).2.length < SHA256_BLOCK_BYTES := by
    rw [absorb, Blocks.length_absorb]
    exact Nat.mod_lt _ blockBytes_pos
  have hone' : filled.bufferLen = 0 ∨ (absorb filled.state left).2 = [] := by
    refine hone.imp_right fun hnil => ?_
    rw [hnil, absorb, Blocks.absorb_of_lt blockBytes_pos]
  obtain ⟨hash', hkeep, hlt', hstate, hlen', hlive⟩ :=
    keep_spec { filled with state := (absorb filled.state left).1 } hlt hrest hone'
  refine ⟨hash', ?_, hlt', ?_, ?_⟩
  · rw [update, if_pos (by omega), expect, ok_bind, hadd, expect, ok_bind, hfill, ok_bind]
    dsimp only
    rw [compressBlocks_eq, ok_bind]
    exact hkeep
  · rw [hstate, hlive]
    exact (h.absorb_append data).trans (hstream.symm.trans (absorb_live hlt hone))
  · rw [hlen', List.length_append]
    exact hlen

/-- a length that does not fit is refused with the text of its check -/
theorem update_long {hash : SecureSha256} {data : Bytes}
    (h : 2 ^ 64 ≤ hash.messageLen + data.length) :
    ∃ text, hash.update data = .error (.message text) := by
  by_cases hdata : data.length < 2 ^ 64
  · have hadd : checkedAdd hash.messageLen data.length = none := if_neg (by omega)
    refine ⟨"SHA-256 input length overflow", ?_⟩
    rw [update, if_pos hdata, expect, ok_bind, hadd]
    rfl
  · refine ⟨"SHA-256 input exceeds u64", ?_⟩
    rw [update, if_neg hdata]
    rfl

/-- **Updates absorb their pieces**, or refuse their total length. -/
theorem foldlM_update {message : Bytes} {hash : SecureSha256} (h : Absorbed message hash)
    (parts : List Bytes) :
    (∃ hash', parts.foldlM update hash = .ok hash' ∧ Absorbed (message ++ parts.flatten) hash') ∨
      2 ^ 64 ≤ message.length + parts.flatten.length ∧
        ∃ text, parts.foldlM update hash = .error (.message text) := by
  induction parts generalizing message hash with
  | nil =>
    refine .inl ⟨hash, rfl, ?_⟩
    rw [List.flatten_nil, List.append_nil]
    exact h
  | cons data parts ih =>
    rw [List.flatten_cons, List.foldlM_cons, List.length_append]
    by_cases hlength : message.length + data.length < 2 ^ 64
    · obtain ⟨hash₁, hupdate, habsorbed⟩ := update_spec h hlength
      rw [hupdate, ok_bind, ← List.append_assoc, ← Nat.add_assoc, ← List.length_append]
      exact ih habsorbed
    · obtain ⟨text, hupdate⟩ := update_long
        (show 2 ^ 64 ≤ hash.messageLen + data.length by rw [h.messageLen_eq]; omega)
      rw [hupdate, error_bind]
      exact .inr ⟨by omega, text, rfl⟩

/-! ## the end -/

/-- the words are written one after the other -/
theorem foldlM_words (words : List (BitVec 32)) (k : Nat) (digest : Buffer 32)
    (h : (k + words.length) * 4 = 32) :
    ∃ c : Buffer 32, (words.zipIdx k).foldlM (fun digest : Buffer 32 => fun p =>
        digest.copyFromSlice (p.2 * 4) ((p.2 + 1) * 4) (beBytes 4 p.1.toNat)) digest = .ok c ∧
      c.1 = digest.1.take (k * 4) ++ words.flatMap fun word => beBytes 4 word.toNat := by
  induction words generalizing k digest with
  | nil =>
    refine ⟨digest, rfl, ?_⟩
    rw [List.flatMap_nil, List.append_nil]
    exact (List.take_of_length_le (by rw [digest.2]; exact Nat.le_of_eq h.symm)).symm
  | cons word words ih =>
    rw [List.length_cons] at h
    have hstop : k * 4 + (beBytes 4 word.toNat).length = (k + 1) * 4 := by
      rw [length_beBytes, Nat.succ_mul]
    obtain ⟨written, hwritten, hbytes⟩ := Buffer.copyFromSlice_take digest hstop (by omega)
    obtain ⟨c, hc, hrest⟩ := ih (k + 1) written (by omega)
    refine ⟨c, ?_, ?_⟩
    · rw [List.zipIdx_cons, List.foldlM_cons, hwritten, ok_bind]
      exact hc
    · rw [hrest, hbytes, List.flatMap_cons, List.append_assoc]

theorem writeWords_eq (state : SecureHash.State 32) :
    writeWords state = .ok ⟨state.toBytes, state.length_toBytes⟩ := by
  obtain ⟨c, hc, hbytes⟩ := foldlM_words state.words 0 (.zero 32) rfl
  rw [writeWords, hc]
  exact congrArg Except.ok (Subtype.ext hbytes)

/-- **Room is made for the length**: where the block has none, zeros close it. -/
theorem closeBlock_spec (self : SecureSha256) (h : self.bufferLen ≤ SHA256_BLOCK_BYTES) :
    ∃ self' zeros, self.closeBlock = .ok self' ∧ self'.bufferLen ≤ 56 ∧ zeros < 8 ∧
      (self.bufferLen + zeros) % 64 = self'.bufferLen ∧
      ∀ data, absorb self'.state (self'.live ++ data) =
        absorb self.state (self.live ++ (List.replicate zeros 0 ++ data)) := by
  by_cases hfull : 56 < self.bufferLen
  · obtain ⟨buffer, hbuffer, hbytes⟩ := Buffer.fill_take self.buffer h (Nat.le_refl _) 0
    have habsorb := absorb_full
      { self with buffer := buffer, bufferLen := SHA256_BLOCK_BYTES } rfl
    refine ⟨compressed { self with buffer := buffer, bufferLen := SHA256_BLOCK_BYTES },
      SHA256_BLOCK_BYTES - self.bufferLen, ?_, Nat.zero_le 56, ?_, ?_, ?_⟩
    · rw [closeBlock, if_pos hfull, hbuffer, ok_bind, compressBuffer_eq]
      rfl
    · unfold SHA256_BLOCK_BYTES at *
      omega
    · rw [Nat.add_sub_cancel' h]
      rfl
    · intro data
      rw [← List.append_assoc, live, live, ← hbytes]
      exact (habsorb data).symm
  · refine ⟨self, 0, ?_, by omega, by omega, by omega, fun data => rfl⟩
    rw [closeBlock, if_neg hfull]
    rfl

/-- the last block, and the digest of it -/
theorem lastBlock_spec (self : SecureSha256) (h : self.bufferLen ≤ 56) {length : Bytes}
    (hlength : length.length = 8) :
    ∃ buffer buffer' : Buffer SHA256_BLOCK_BYTES, self.buffer.fill self.bufferLen 56 0 = .ok buffer ∧
      buffer.copyFromSlice 56 SHA256_BLOCK_BYTES length = .ok buffer' ∧
      absorb self.state
        (self.live ++ (List.replicate (56 - self.bufferLen) 0 ++ length)) =
          (compressBlock self.state buffer'.1, []) := by
  obtain ⟨buffer, hbuffer, hbytes⟩ := Buffer.fill_take self.buffer h (by decide) 0
  obtain ⟨buffer', hbuffer', hbytes'⟩ := Buffer.copyFromSlice_take buffer
    (show 56 + length.length = SHA256_BLOCK_BYTES by rw [hlength]; rfl) (Nat.le_refl _)
  refine ⟨buffer, buffer', hbuffer, hbuffer', ?_⟩
  rw [← List.append_assoc, live, ← hbytes, ← hbytes', List.take_of_length_le (by rw [buffer'.2])]
  exact Blocks.absorb_block blockBytes_pos buffer'.2 self.state

/-- the padding, as `finish` writes it: the zeros that close a block and those before the length -/
theorem pad_eq_regions {message : Bytes} {zeros room : Nat} (hroom : room ≤ 56) (hzeros : zeros < 8)
    (hlen : (message.length % 64 + 1 + zeros) % 64 = room) :
    pad 32 message = message ++ ([0x80] ++ (List.replicate zeros 0 ++
      (List.replicate (56 - room) 0 ++ beBytes 8 (message.length * 8)))) := by
  have hcount : (2 * (2 * 32) - (message.length + 1 + 32 / 4) % (2 * 32)) % (2 * 32) =
      zeros + (56 - room) := by omega
  rw [pad, Nat.mul_comm 8, ← List.append_assoc (List.replicate zeros 0),
    List.replicate_append_replicate, ← hcount]
  simp only [List.append_assoc, List.cons_append, List.nil_append]

/-- the hash of a message, as a stream of blocks -/
theorem sha256_eq (message : Bytes) :
    SecureHash.sha256 message = (absorb new.state (pad 32 message)).1.toBytes := by
  rw [SecureHash.sha256, digest, List.foldl_map]
  rfl

/-- **The digest of what was absorbed.** -/
theorem finish_spec {message : Bytes} {hash : SecureSha256} (h : Absorbed message hash) :
    if message.length < 2 ^ 61 then
      hash.finish = .ok ⟨SecureHash.sha256 message, length_sha256 message⟩
    else hash.finish = .error (.message "SHA-256 bit length overflow") := by
  split
  · next hlength =>
    have hmul : checkedMul hash.messageLen 8 = some (message.length * 8) := by
      rw [h.messageLen_eq]
      exact if_pos (by omega)
    obtain ⟨marked, hmarked, hone⟩ := Buffer.set_take hash.buffer h.bufferLen_lt 0x80
    obtain ⟨closed, zeros, hclosed, hroom, hzeros, hlen, habsorb⟩ := closeBlock_spec
      { hash with buffer := marked, bufferLen := hash.bufferLen + 1 } h.bufferLen_lt
    obtain ⟨buffer, buffer', hfill, hcopy, hlast⟩ :=
      lastBlock_spec closed hroom (length_beBytes 8 (message.length * 8))
    have hdigest : absorb new.state (pad 32 message) = (compressBlock closed.state buffer'.1, []) := by
      dsimp only at hlen
      rw [h.bufferLen_eq] at hlen
      rw [pad_eq_regions hroom hzeros hlen, h.absorb_append, ← List.append_assoc hash.live, live,
        ← hone, ← hlast]
      exact (habsorb _).symm
    have hsha : SecureHash.sha256 message = (compressBlock closed.state buffer'.1).toBytes := by
      rw [sha256_eq, hdigest]
    rw [finish, hmul, expect, ok_bind, hmarked, ok_bind, hclosed, ok_bind, hfill, ok_bind, hcopy,
      ok_bind, compressBuffer_eq, ok_bind, writeWords_eq]
    exact congrArg Except.ok (Subtype.ext hsha.symm)
  · next hlength =>
    have hmul : checkedMul hash.messageLen 8 = none := by
      rw [h.messageLen_eq]
      exact if_neg (by omega)
    rw [finish, hmul]
    rfl

/-- **The pieces are hashed as one message**, when its bits can be counted. -/
theorem hashParts_eq {parts : List Bytes} (h : parts.flatten.length < 2 ^ 61) :
    hashParts parts = .ok ⟨secureSha256 parts, length_sha256 _⟩ := by
  rcases foldlM_update absorbed_new parts with ⟨hash, hupdates, habsorbed⟩ | ⟨hlong, -⟩
  · have hfinish := finish_spec habsorbed
    rw [List.nil_append, if_pos h] at hfinish
    rw [hashParts, hupdates, ok_bind]
    exact hfinish
  · rw [List.length_nil] at hlong
    omega

/-- a longer message is refused by the check of its length -/
theorem hashParts_long {parts : List Bytes} (h : 2 ^ 61 ≤ parts.flatten.length) :
    ∃ text, hashParts parts = .error (.message text) := by
  rcases foldlM_update absorbed_new parts with ⟨hash, hupdates, habsorbed⟩ | ⟨-, text, hupdates⟩
  · have hfinish := finish_spec habsorbed
    rw [List.nil_append, if_neg (Nat.not_lt.mpr h)] at hfinish
    rw [hashParts, hupdates, ok_bind]
    exact ⟨_, hfinish⟩
  · rw [hashParts, hupdates]
    exact ⟨text, rfl⟩

/-- **Chunks do not matter**: whatever the pieces, as many and as long or short as they are, the
digest is that of the whole message.  No access is out of range, also where the message is too
long to be hashed. -/
theorem chunked_eq_oneShot (parts : List Bytes) :
    if parts.flatten.length < 2 ^ 61 then
      hashParts parts = .ok ⟨SecureHash.sha256 parts.flatten, length_sha256 _⟩
    else ∃ text, hashParts parts = .error (.message text) := by
  split
  · next h => exact hashParts_eq h
  · next h => exact hashParts_long (Nat.not_lt.mp h)

end SecureSha256

end Isomdl
