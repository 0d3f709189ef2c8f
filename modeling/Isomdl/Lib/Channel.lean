import Mathlib.Data.List.Infix
import Mathlib.Data.List.Nodup

/-!
# A channel in one direction

An ideal channel remembers what was sent and what was received.  A message that arrives is
recognised by its label: it is received when it carries the label of the next message in order, and
is dropped otherwise.  So what is received is a prefix of what was sent, whatever arrives.

* `Channel.Fifo`          what was received is a prefix of what was sent, kept by both operations;
* `Numbered`              the message at each position satisfies the relation of that position;
* `Numbered.nodup`        a label that tells positions apart does not repeat.
-/

structure Channel (M : Type) where
  sent : List M
  received : List M

namespace Channel

section
variable {M C : Type}

def empty : Channel M := ⟨[], []⟩

def send (ch : Channel M) (m : M) : Channel M := { ch with sent := ch.sent ++ [m] }

/-- a step that may send -/
def sendOption (ch : Channel M) : Option M → Channel M
  | none => ch
  | some m => ch.send m

/-- the message to be received next -/
def next? (ch : Channel M) : Option M := ch.sent[ch.received.length]?

/-- the arriving label is that of the next message -/
def Next (label : M → C) (ch : Channel M) (c : C) : Prop := ∃ m, ch.next? = some m ∧ label m = c

/-- a message arrives with this label -/
def deliver [DecidableEq C] (label : M → C) (ch : Channel M) (c : C) : Channel M :=
  match ch.next? with
  | none => ch
  | some m => if label m = c then { ch with received := ch.received ++ [m] } else ch

/-- a step in which a label may arrive -/
def deliverOption [DecidableEq C] (label : M → C) (ch : Channel M) : Option C → Channel M
  | none => ch
  | some c => ch.deliver label c

theorem sendOption_received (ch : Channel M) (o : Option M) :
    (ch.sendOption o).received = ch.received := by
  cases o <;> rfl

theorem sendOption_sent (ch : Channel M) (o : Option M) :
    (ch.sendOption o).sent = ch.sent ++ o.toList := by
  cases o with
  | none => exact (List.append_nil _).symm
  | some m => rfl

/-! ## what is received -/

section
variable [DecidableEq C] (label : M → C)

theorem deliver_next {ch : Channel M} {m : M} (h : ch.next? = some m) :
    ch.deliver label (label m) = { ch with received := ch.received ++ [m] } := by
  rw [deliver, h]
  exact if_pos rfl

theorem deliver_of_not_next {ch : Channel M} {c : C} (h : ¬ ch.Next label c) :
    ch.deliver label c = ch := by
  unfold deliver
  cases hnext : ch.next? with
  | none => rfl
  | some m => exact if_neg fun hc => h ⟨m, hnext, hc⟩

theorem deliverOption_sent (ch : Channel M) (o : Option C) :
    (ch.deliverOption label o).sent = ch.sent := by
  cases o with
  | none => rfl
  | some c =>
    show (ch.deliver label c).sent = ch.sent
    unfold deliver
    split
    · rfl
    · split <;> rfl

end

/-- what was received is a prefix of what was sent -/
def Fifo (ch : Channel M) : Prop := ch.received <+: ch.sent

theorem Fifo.next? {ch : Channel M} (h : ch.Fifo) {m : M} (hm : ch.next? = some m) :
    ch.received ++ [m] <+: ch.sent := by
  obtain ⟨rest, hrest⟩ := h
  rw [Channel.next?, ← hrest, List.getElem?_append_right (Nat.le_refl _), Nat.sub_self] at hm
  cases rest with
  | nil => cases hm
  | cons m' rest =>
    cases hm
    exact ⟨rest, by rw [← hrest, List.append_assoc]; rfl⟩

theorem Fifo.sendOption {ch : Channel M} (h : ch.Fifo) (o : Option M) : (ch.sendOption o).Fifo := by
  show (ch.sendOption o).received <+: (ch.sendOption o).sent
  rw [sendOption_received, sendOption_sent]
  exact h.trans (List.prefix_append _ _)

theorem Fifo.deliverOption [DecidableEq C] {label : M → C} {ch : Channel M} (h : ch.Fifo)
    (o : Option C) : (ch.deliverOption label o).Fifo := by
  cases o with
  | none => exact h
  | some c =>
    show (ch.deliver label c).Fifo
    by_cases hnext : ch.Next label c
    · obtain ⟨m, hm, rfl⟩ := hnext
      rw [deliver_next label hm]
      exact h.next? hm
    · rw [deliver_of_not_next label hnext]
      exact h

end

end Channel

/-! ## numbered messages -/

/-- the message at position `i` satisfies `R i` -/
def Numbered {M : Type} (R : ℕ → M → Prop) (l : List M) : Prop := ∀ i m, l[i]? = some m → R i m

namespace Numbered

section
variable {M : Type} {R : ℕ → M → Prop} {l : List M}

theorem nil : Numbered R [] := by
  intro i m h
  cases h

theorem append_option (h : Numbered R l) {o : Option M} (ho : ∀ m, o = some m → R l.length m) :
    Numbered R (l ++ o.toList) := by
  intro i m hm
  by_cases hi : i < l.length
  · rw [List.getElem?_append_left hi] at hm
    exact h i m hm
  · rw [List.getElem?_append_right (Nat.le_of_not_lt hi)] at hm
    cases o with
    | none => cases hm
    | some m' =>
      have hlast : i - l.length = 0 := by
        have := (List.getElem?_eq_some_iff.mp hm).1
        simp only [Option.toList_some, List.length_singleton] at this
        omega
      rw [hlast] at hm
      cases hm
      have hlen : i = l.length := by omega
      rw [hlen]
      exact ho m rfl

theorem exists_of_mem (h : Numbered R l) {m : M} (hm : m ∈ l) : ∃ i, l[i]? = some m ∧ R i m := by
  obtain ⟨i, hi⟩ := List.mem_iff_getElem?.mp hm
  exact ⟨i, hi, h i m hi⟩

/-- **A label that tells positions apart does not repeat.** -/
theorem nodup {L : Type} {f : M → L} (h : Numbered R l)
    (hf : ∀ i j m n, R i m → R j n → f m = f n → i = j) : (l.map f).Nodup := by
  rw [List.Nodup, List.pairwise_iff_getElem]
  intro i j hi hj hij heq
  rw [List.length_map] at hi hj
  rw [List.getElem_map, List.getElem_map] at heq
  have := hf i j _ _ (h i _ (List.getElem?_eq_getElem hi)) (h j _ (List.getElem?_eq_getElem hj)) heq
  omega

end

end Numbered
