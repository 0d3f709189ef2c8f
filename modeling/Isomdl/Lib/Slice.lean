import Mathlib.Data.List.Basic

/-!
# Contiguous chunks of a slice

`chunks n l` cuts a list into pieces of `n` elements, the last one possibly shorter.

* `flatten_chunks`   the chunks are the list again;
* `length_chunks`    how many there are.
-/

namespace Slice

variable {α : Type}

def chunks (n : Nat) (l : List α) : List (List α) :=
  (List.range ((l.length + n - 1) / n)).map fun i => (l.drop (i * n)).take n

/-- the first `k` pieces of `n` elements -/
theorem flatMap_pieces (n k : Nat) (l : List α) :
    (List.range k).flatMap (fun i => (l.drop (i * n)).take n) = l.take (k * n) := by
  induction k with
  | zero => simp
  | succ k ih =>
    rw [List.range_succ, List.flatMap_append, ih, List.flatMap_singleton, Nat.succ_mul,
      List.take_add]

theorem length_le_ceil_mul {n : Nat} (hn : 0 < n) (k : Nat) : k ≤ (k + n - 1) / n * n := by
  have hdiv := Nat.div_add_mod (k + n - 1) n
  have hmod := Nat.mod_lt (k + n - 1) hn
  rw [Nat.mul_comm] at hdiv
  omega

/-- **The chunks of a list are the list, in order.** -/
theorem flatten_chunks {n : Nat} (hn : 0 < n) (l : List α) : (chunks n l).flatten = l := by
  have h := flatMap_pieces n ((l.length + n - 1) / n) l
  rw [List.take_of_length_le (length_le_ceil_mul hn l.length)] at h
  exact h

theorem length_chunks (n : Nat) (l : List α) : (chunks n l).length = (l.length + n - 1) / n := by
  rw [chunks, List.length_map, List.length_range]

/-- mapping each chunk maps the list -/
theorem mapM_chunks {β : Type} {f : α → Option β} {n : Nat} (hn : 0 < n) (l : List α) :
    ((chunks n l).mapM fun c : List α => c.mapM f).map List.flatten = l.mapM f := by
  have hpieces (cs : List (List α)) :
      (cs.mapM fun c : List α => c.mapM f).map List.flatten = cs.flatten.mapM f := by
    induction cs with
    | nil => rfl
    | cons c cs ih =>
      rw [List.mapM_cons, List.flatten_cons, List.mapM_append, ← ih]
      cases c.mapM f with
      | none => rfl
      | some ys => cases cs.mapM fun c : List α => c.mapM f <;> rfl
  rw [hpieces, flatten_chunks hn]

end Slice
