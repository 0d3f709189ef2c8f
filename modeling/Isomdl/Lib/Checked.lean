import Isomdl.Lib.Machine

/-!
# Checked accesses

An access past the end of a slice, a number that is out of range and an `expect` of nothing panic.
A result in `Except Panic` says so, and that a piece of code does not panic is then a theorem
about it.  Each access has its equation for the case that it is in range.
-/

namespace Checked

/-- why code does not return -/
inductive Panic where
  | outOfRange
  | lengthMismatch
  | overflow
  | message (text : String)
  deriving DecidableEq, Repr

/-- `expect(text)` -/
def expect {α : Type} (text : String) : Option α → Except Panic α
  | some a => .ok a
  | none => .error (.message text)

theorem ok_bind {α β : Type} (a : α) (f : α → Except Panic β) :
    ((.ok a : Except Panic α) >>= f) = f a := rfl

theorem error_bind {α β : Type} (p : Panic) (f : α → Except Panic β) :
    ((.error p : Except Panic α) >>= f) = .error p := rfl

/-- a loop none of whose turns panics -/
theorem mapM_eq {α β γ : Type} {f : α → Except Panic β} {φ : β → γ} {g : α → γ} (l : List α)
    (h : ∀ a ∈ l, ∃ b, f a = .ok b ∧ φ b = g a) :
    ∃ bs, l.mapM f = .ok bs ∧ bs.map φ = l.map g := by
  induction l with
  | nil => exact ⟨[], rfl, rfl⟩
  | cons a l ih =>
    obtain ⟨b, hb, heq⟩ := h a List.mem_cons_self
    obtain ⟨bs, hbs, hmap⟩ := ih fun a' ha' => h a' (List.mem_cons_of_mem a ha')
    refine ⟨b :: bs, ?_, ?_⟩
    · rw [List.mapM_cons, hb, ok_bind, hbs]
      rfl
    · rw [List.map_cons, List.map_cons, heq, hmap]

/-! ## numbers of 64 bits -/

section
variable {a b : Nat}

/-- `checked_add` -/
def checkedAdd (a b : Nat) : Option Nat := if a + b < 2 ^ 64 then some (a + b) else none

/-- `checked_mul` -/
def checkedMul (a b : Nat) : Option Nat := if a * b < 2 ^ 64 then some (a * b) else none

def add (a b : Nat) : Except Panic Nat := if a + b < 2 ^ 64 then .ok (a + b) else .error .overflow
def sub (a b : Nat) : Except Panic Nat := if b ≤ a then .ok (a - b) else .error .overflow
def mul (a b : Nat) : Except Panic Nat := if a * b < 2 ^ 64 then .ok (a * b) else .error .overflow

theorem add_eq (h : a + b < 2 ^ 64) : add a b = .ok (a + b) := if_pos h
theorem sub_eq (h : b ≤ a) : sub a b = .ok (a - b) := if_pos h
theorem mul_eq (h : a * b < 2 ^ 64) : mul a b = .ok (a * b) := if_pos h

end

/-! ## slices -/

/-- `&data[start..stop]` -/
def slice (data : Bytes) (start stop : Nat) : Except Panic Bytes :=
  if start ≤ stop ∧ stop ≤ data.length then .ok ((data.drop start).take (stop - start))
  else .error .outOfRange

section
variable {data : Bytes} {start stop : Nat}

theorem slice_eq (hstart : start ≤ stop) (hstop : stop ≤ data.length) :
    slice data start stop = .ok ((data.drop start).take (stop - start)) := if_pos ⟨hstart, hstop⟩

/-- `&data[..stop]` -/
theorem slice_to (h : stop ≤ data.length) : slice data 0 stop = .ok (data.take stop) :=
  slice_eq (Nat.zero_le stop) h

/-- `&data[start..]` -/
theorem slice_from (h : start ≤ data.length) :
    slice data start data.length = .ok (data.drop start) := by
  rw [slice_eq h (Nat.le_refl _), ← List.length_drop, List.take_length]

end

/-! ## buffers -/

/-- `[u8; n]` -/
abbrev Buffer (n : Nat) := {bytes : Bytes // bytes.length = n}

namespace Buffer
variable {n : Nat}

/-- `[0; n]`, and what `zeroize` leaves -/
def zero (n : Nat) : Buffer n := ⟨List.replicate n 0, List.length_replicate⟩

theorem length_splice {buffer : Buffer n} {start stop : Nat} {src : Bytes}
    (h : start ≤ stop ∧ stop ≤ n) (hsrc : src.length = stop - start) :
    (buffer.1.take start ++ src ++ buffer.1.drop stop).length = n := by
  have hbuffer := buffer.2
  simp only [List.length_append, List.length_take, List.length_drop]
  omega

/-- `buffer[start..stop].copy_from_slice(src)` -/
def copyFromSlice (buffer : Buffer n) (start stop : Nat) (src : Bytes) : Except Panic (Buffer n) :=
  if h : start ≤ stop ∧ stop ≤ n then
    if hsrc : src.length = stop - start then
      .ok ⟨buffer.1.take start ++ src ++ buffer.1.drop stop, length_splice h hsrc⟩
    else .error .lengthMismatch
  else .error .outOfRange

/-- `buffer[start..stop].fill(byte)` -/
def fill (buffer : Buffer n) (start stop : Nat) (byte : UInt8) : Except Panic (Buffer n) :=
  buffer.copyFromSlice start stop (List.replicate (stop - start) byte)

/-- `buffer[i] = byte` -/
def set (buffer : Buffer n) (i : Nat) (byte : UInt8) : Except Panic (Buffer n) :=
  buffer.copyFromSlice i (i + 1) [byte]

theorem length_map {buffer : Buffer n} (f : UInt8 → UInt8) : (buffer.1.map f).length = n := by
  rw [List.length_map, buffer.2]

/-- a loop over `buffer.iter_mut()` -/
def map (f : UInt8 → UInt8) (buffer : Buffer n) : Buffer n := ⟨buffer.1.map f, length_map f⟩

section
variable (buffer : Buffer n) {src : Bytes} {start stop : Nat}

/-- **The bytes between the bounds are replaced, and no others.** -/
theorem copyFromSlice_eq (hstop : start + src.length = stop) (hn : stop ≤ n) :
    ∃ c : Buffer n, buffer.copyFromSlice start stop src = .ok c ∧
      c.1 = buffer.1.take start ++ src ++ buffer.1.drop stop := by
  have hbounds : start ≤ stop ∧ stop ≤ n := by omega
  have hsrc : src.length = stop - start := by omega
  exact ⟨_, (dif_pos hbounds).trans (dif_pos hsrc), rfl⟩

/-- what stands before the end of the write -/
theorem copyFromSlice_take (hstop : start + src.length = stop) (hn : stop ≤ n) :
    ∃ c : Buffer n, buffer.copyFromSlice start stop src = .ok c ∧
      c.1.take stop = buffer.1.take start ++ src := by
  have hbuffer := buffer.2
  obtain ⟨c, hc, hbytes⟩ := copyFromSlice_eq buffer hstop hn
  refine ⟨c, hc, ?_⟩
  rw [hbytes]
  apply List.take_left'
  rw [List.length_append, List.length_take]
  omega

theorem fill_take (hstart : start ≤ stop) (hn : stop ≤ n) (byte : UInt8) :
    ∃ c : Buffer n, buffer.fill start stop byte = .ok c ∧
      c.1.take stop = buffer.1.take start ++ List.replicate (stop - start) byte :=
  copyFromSlice_take buffer (by rw [List.length_replicate]; omega) hn

theorem set_take (hn : start < n) (byte : UInt8) :
    ∃ c : Buffer n, buffer.set start byte = .ok c ∧
      c.1.take (start + 1) = buffer.1.take start ++ [byte] :=
  copyFromSlice_take buffer rfl hn

/-- at the front of a zeroed buffer -/
theorem copyFromSlice_zero (hstop : src.length = stop) (hn : stop ≤ n) :
    ∃ c : Buffer n, (zero n).copyFromSlice 0 stop src = .ok c ∧
      c.1 = src ++ List.replicate (n - stop) 0 := by
  obtain ⟨c, hc, hbytes⟩ := copyFromSlice_eq (zero n) ((Nat.zero_add _).trans hstop) hn
  refine ⟨c, hc, ?_⟩
  rw [hbytes, List.take_zero, List.nil_append, zero, List.drop_replicate]

/-- the whole buffer -/
theorem copyFromSlice_all (src : Buffer n) : buffer.copyFromSlice 0 n src.1 = .ok src := by
  obtain ⟨c, hc, hbytes⟩ := copyFromSlice_eq buffer ((Nat.zero_add _).trans src.2) (Nat.le_refl n)
  have hdrop : buffer.1.drop n = [] := List.drop_eq_nil_of_le (Nat.le_of_eq buffer.2)
  rw [List.take_zero, List.nil_append, hdrop, List.append_nil] at hbytes
  rw [hc]
  exact congrArg Except.ok (Subtype.ext hbytes)

end

end Buffer

end Checked
