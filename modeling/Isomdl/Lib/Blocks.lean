import Mathlib.Data.List.Basic

/-!
# Streams absorbed in blocks

A function of a state and a block takes a stream in, `n` elements at a time; fewer than `n` wait
for more.

* `Blocks.induction`     a stream is short, or a block and a stream;
* `absorb_append`        a stream may come in pieces.
-/

namespace Blocks

section
variable {α : Type} (n : Nat)

/-- the full blocks of a stream -/
def blocks (l : List α) : List (List α) :=
  (List.range (l.length / n)).map fun i => (l.drop (i * n)).take n

/-- what is left after the full blocks -/
def rest (l : List α) : List α := l.drop (l.length / n * n)

variable {n}

theorem blocks_of_lt {l : List α} (h : l.length < n) : blocks n l = [] := by
  rw [blocks, Nat.div_eq_of_lt h]
  rfl

theorem rest_of_lt {l : List α} (h : l.length < n) : rest n l = l := by
  rw [rest, Nat.div_eq_of_lt h, Nat.zero_mul, List.drop_zero]

theorem length_rest (l : List α) : (rest n l).length = l.length % n := by
  have hdiv := Nat.div_add_mod l.length n
  rw [Nat.mul_comm] at hdiv
  rw [rest, List.length_drop]
  omega

section
variable {block : List α} (hblock : block.length = n) (l : List α)
include hblock

theorem drop_block (i : Nat) : (block ++ l).drop ((i + 1) * n) = l.drop (i * n) := by
  rw [Nat.succ_mul, Nat.add_comm, ← hblock, List.drop_length_add_append]

theorem blocks_block_append (hn : 0 < n) : blocks n (block ++ l) = block :: blocks n l := by
  rw [blocks, List.length_append, hblock, Nat.add_div_left _ hn, List.range_succ_eq_map,
    List.map_cons, List.map_map]
  congr 1
  · rw [Nat.zero_mul, List.drop_zero, ← hblock, List.take_left]
  · apply List.map_congr_left
    intro i _
    show ((block ++ l).drop ((i + 1) * n)).take n = _
    rw [drop_block hblock]

theorem rest_block_append (hn : 0 < n) : rest n (block ++ l) = rest n l := by
  rw [rest, List.length_append, hblock, Nat.add_div_left _ hn, drop_block hblock]
  rfl

end

/-- **A stream is short, or a block and a stream.** -/
theorem induction (hn : 0 < n) {P : List α → Prop} (short : ∀ l, l.length < n → P l)
    (block : ∀ block l, block.length = n → P l → P (block ++ l)) (l : List α) : P l := by
  by_cases h : l.length < n
  · exact short l h
  · have hrest := induction hn short block (l.drop n)
    have := block (l.take n) (l.drop n) (by rw [List.length_take]; omega) hrest
    rw [List.take_append_drop] at this
    exact this
termination_by l.length
decreasing_by
  rw [List.length_drop]
  omega

end

section
variable {α S : Type} (n : Nat) (f : S → List α → S)

/-- the state after the full blocks of a stream, and what is left -/
def absorb (s : S) (l : List α) : S × List α := ((blocks n l).foldl f s, rest n l)

variable {n f}

theorem absorb_of_lt {l : List α} (h : l.length < n) (s : S) : absorb n f s l = (s, l) := by
  rw [absorb, blocks_of_lt h, rest_of_lt h]
  rfl

theorem absorb_block_append (hn : 0 < n) {block : List α} (h : block.length = n) (l : List α)
    (s : S) : absorb n f s (block ++ l) = absorb n f (f s block) l := by
  rw [absorb, blocks_block_append h l hn, rest_block_append h l hn]
  rfl

theorem absorb_block (hn : 0 < n) {block : List α} (h : block.length = n) (s : S) :
    absorb n f s block = (f s block, []) := by
  have := absorb_block_append (f := f) hn h [] s
  rw [List.append_nil] at this
  rw [this, absorb_of_lt (show ([] : List α).length < n from hn)]

/-- **A stream may come in pieces**: what is left of the first piece comes before the second. -/
theorem absorb_append (hn : 0 < n) (l m : List α) (s : S) :
    absorb n f s (l ++ m) = absorb n f (absorb n f s l).1 ((absorb n f s l).2 ++ m) := by
  induction l using Blocks.induction hn generalizing s with
  | short l h => rw [absorb_of_lt h]
  | block block l h ih =>
    rw [List.append_assoc, absorb_block_append hn h, absorb_block_append hn h, ih]

/-- what is left of a stream is shorter than a block -/
theorem length_absorb (s : S) (l : List α) : (absorb n f s l).2.length = l.length % n :=
  length_rest l

end

end Blocks
