import Isomdl.Lib.Checked
import Isomdl.Lib.Slice
import Isomdl.SimdSha256

/-!
# The staged blocks are the padding (`simd_sha256.rs`)

`fillBlockInto` is `fill_block` with its checks: it writes over whatever its buffer held, and every
number and every slice of it may be out of range.

* `fillBlockInto_eq`   none is, and the block is that of `fillBlock`;
* `staged_eq_pad`      the blocks of a message, one after the other, are the message padded.
-/

namespace SimdSha256

open Checked

/-- the bytes of the message that fall into the block -/
def copyMessage (input : Bytes) (start : Nat) (block : Buffer BLOCK_BYTES) :
    Except Panic (Buffer BLOCK_BYTES) :=
  if start < input.length then do
    let byteCount := min (input.length - start) BLOCK_BYTES
    let stop ← Checked.add start byteCount
    let src ← slice input start stop
    block.copyFromSlice 0 byteCount src
  else return block

/-- the one after the message, in the block it falls into -/
def markEnd (input : Bytes) (start stop : Nat) (block : Buffer BLOCK_BYTES) :
    Except Panic (Buffer BLOCK_BYTES) :=
  if start ≤ input.length ∧ input.length < stop then block.set (input.length - start) 0x80
  else return block

/-- `fill_block` -/
def fillBlockInto (input : Bytes) (blockIndex blockCount : Nat) (block : Buffer BLOCK_BYTES) :
    Except Panic (Buffer BLOCK_BYTES) := do
  let block ← block.fill 0 BLOCK_BYTES 0
  let start ← Checked.mul blockIndex BLOCK_BYTES
  let block ← copyMessage input start block
  let stop ← Checked.add start BLOCK_BYTES
  let block ← markEnd input start stop block
  let next ← Checked.add blockIndex 1
  if next = blockCount then
    let bitLength := input.length % 2 ^ 64 * 8 % 2 ^ 64
    block.copyFromSlice (BLOCK_BYTES - 8) BLOCK_BYTES (beBytes 8 bitLength)
  else return block

theorem fill_zero (block : Buffer BLOCK_BYTES) :
    block.fill 0 BLOCK_BYTES 0 = .ok (.zero BLOCK_BYTES) :=
  block.copyFromSlice_all (.zero BLOCK_BYTES)

theorem copyMessage_eq {input : Bytes} (h : input.length < 2 ^ 64) (start : Nat) :
    ∃ c : Buffer BLOCK_BYTES, copyMessage input start (.zero BLOCK_BYTES) = .ok c ∧
      c.1 = if start < input.length then copyFromSlice (List.replicate BLOCK_BYTES 0) 0
          ((input.drop start).take (min (input.length - start) BLOCK_BYTES))
        else List.replicate BLOCK_BYTES 0 := by
  unfold copyMessage
  split
  · next hstart =>
    dsimp only
    generalize hcount : min (input.length - start) BLOCK_BYTES = byteCount
    rw [Checked.add_eq (by omega), ok_bind, slice_eq (by omega) (by omega), ok_bind,
      Nat.add_sub_cancel_left]
    have hsrc : ((input.drop start).take byteCount).length = byteCount := by
      rw [List.length_take, List.length_drop]
      omega
    obtain ⟨c, hc, hbytes⟩ := Buffer.copyFromSlice_eq (.zero BLOCK_BYTES)
      (show 0 + ((input.drop start).take byteCount).length = byteCount by rw [hsrc, Nat.zero_add])
      (by omega)
    refine ⟨c, hc, ?_⟩
    rw [hbytes, copyFromSlice, hsrc, Nat.zero_add]
    rfl
  · exact ⟨_, rfl, rfl⟩

theorem markEnd_eq (input : Bytes) (start : Nat) (block : Buffer BLOCK_BYTES) :
    ∃ c : Buffer BLOCK_BYTES, markEnd input start (start + BLOCK_BYTES) block = .ok c ∧
      c.1 = if start ≤ input.length ∧ input.length < start + BLOCK_BYTES then
          block.1.set (input.length - start) 0x80
        else block.1 := by
  unfold markEnd
  split
  · next h =>
    obtain ⟨c, hc, hbytes⟩ := Buffer.copyFromSlice_eq block
      (show input.length - start + ([0x80] : Bytes).length = input.length - start + 1 from rfl)
      (show input.length - start + 1 ≤ BLOCK_BYTES by omega)
    refine ⟨c, hc, ?_⟩
    rw [hbytes, List.set_eq_take_append_cons_drop, if_pos (by rw [block.2]; omega),
      List.append_assoc]
    rfl
  · exact ⟨_, rfl, rfl⟩

/-- **Nothing is out of range**, and the block is that of `fillBlock` whatever the buffer held. -/
theorem fillBlockInto_eq {input : Bytes} (h : 8 * input.length < 2 ^ 64) {blockIndex : Nat}
    (hindex : blockIndex < sha256BlockCount input.length) (block : Buffer BLOCK_BYTES) :
    ∃ c : Buffer BLOCK_BYTES,
      fillBlockInto input blockIndex (sha256BlockCount input.length) block = .ok c ∧
      c.1 = fillBlock input blockIndex (sha256BlockCount input.length) := by
  obtain ⟨-, hhigh⟩ := sha256BlockCount_bounds input.length
  have hstop : blockIndex * BLOCK_BYTES + BLOCK_BYTES < 2 ^ 64 := by
    unfold BLOCK_BYTES
    omega
  obtain ⟨copied, hcopied, hbytes⟩ := copyMessage_eq
    (show input.length < 2 ^ 64 by omega) (blockIndex * BLOCK_BYTES)
  obtain ⟨marked, hmarked, hbytes'⟩ := markEnd_eq input (blockIndex * BLOCK_BYTES) copied
  unfold fillBlockInto fillBlock
  rw [fill_zero, ok_bind, Checked.mul_eq (by omega), ok_bind, hcopied, ok_bind,
    Checked.add_eq hstop, ok_bind, hmarked, ok_bind, Checked.add_eq (by omega), ok_bind]
  dsimp only
  rw [← hbytes, ← hbytes']
  split
  · obtain ⟨c, hc, hbytes''⟩ := Buffer.copyFromSlice_eq marked
      (show BLOCK_BYTES - 8 + (beBytes 8 (input.length % 2 ^ 64 * 8 % 2 ^ 64)).length = BLOCK_BYTES by
        rw [length_beBytes]; rfl) (Nat.le_refl _)
    refine ⟨c, hc, ?_⟩
    rw [hbytes'', copyFromSlice, length_beBytes]
    rfl
  · exact ⟨marked, rfl, rfl⟩

/-- all blocks of a message, each in a buffer of its own -/
def stageBlocks (input : Bytes) (staged : Nat → Buffer BLOCK_BYTES) :
    Except Panic (List (Buffer BLOCK_BYTES)) :=
  (List.range (sha256BlockCount input.length)).mapM fun blockIndex =>
    fillBlockInto input blockIndex (sha256BlockCount input.length) (staged blockIndex)

theorem stageBlocks_eq {input : Bytes} (h : 8 * input.length < 2 ^ 64)
    (staged : Nat → Buffer BLOCK_BYTES) :
    ∃ blocks, stageBlocks input staged = .ok blocks ∧
      blocks.map (·.1) = SecureHash.chunks (2 * 32) (SecureHash.pad 32 input) := by
  rw [← map_fillBlock]
  apply mapM_eq
  intro blockIndex hindex
  exact fillBlockInto_eq h (List.mem_range.mp hindex) _

/-- the blocks of the padded message are all of it -/
theorem flatten_chunks_pad (input : Bytes) :
    (SecureHash.chunks (2 * 32) (SecureHash.pad 32 input)).flatten = SecureHash.pad 32 input := by
  rw [SecureHash.chunks, ← List.flatMap_def, Slice.flatMap_pieces]
  apply List.take_of_length_le
  rw [length_pad, Nat.mul_div_cancel _ (by decide)]

/-- **The staged blocks are the padded message**, in the fewest blocks that it fits in, whatever
the buffers held; no access is out of range. -/
theorem staged_eq_pad {input : Bytes} (h : 8 * input.length < 2 ^ 64)
    (staged : Nat → Buffer BLOCK_BYTES) :
    (∃ blocks, stageBlocks input staged = .ok blocks ∧
      (blocks.map (·.1)).flatten = SecureHash.pad 32 input) ∧
    SecureHash.pad 32 input = input ++ 0x80 ::
      List.replicate (sha256BlockCount input.length * 64 - 9 - input.length) 0 ++
      beBytes 8 (8 * input.length) ∧
    ∀ blockCount, input.length + 9 ≤ blockCount * 64 ↔ sha256BlockCount input.length ≤ blockCount := by
  refine ⟨?_, pad_eq input, ?_⟩
  · obtain ⟨blocks, hblocks, hmap⟩ := stageBlocks_eq h staged
    refine ⟨blocks, hblocks, ?_⟩
    rw [hmap, flatten_chunks_pad]
  · intro blockCount
    obtain ⟨hlow, hhigh⟩ := sha256BlockCount_bounds input.length
    omega

/-- 56 bytes leave no room for the length -/
theorem staged_eq_pad_fiftySix :
    (∃ blocks, stageBlocks (List.replicate 56 0x61) (fun _ => .zero BLOCK_BYTES) = .ok blocks ∧
      (blocks.map (·.1)).flatten = SecureHash.pad 32 (List.replicate 56 0x61)) ∧
    SecureHash.pad 32 (List.replicate 56 0x61) =
      List.replicate 56 0x61 ++ 0x80 :: List.replicate 63 0 ++ beBytes 8 448 := by
  have h := staged_eq_pad (show 8 * (List.replicate 56 (0x61 : UInt8)).length < 2 ^ 64 by decide)
    fun _ => .zero BLOCK_BYTES
  exact ⟨h.1, h.2.1⟩

end SimdSha256
