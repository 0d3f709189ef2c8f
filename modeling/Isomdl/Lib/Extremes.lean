import Mathlib.Data.List.Basic
import Mathlib.Order.Lattice

/-!
# The least and the greatest element of a list

A search goes through a list and keeps the element that beats the others; it returns the first of
the least elements, or the last of the greatest.

* `pick_eq_some_iff`                  where the element stands in the list;
* `pick_map`                          a search in a list that is mapped;
* `FirstLeast.le`, `LastGreatest.le`  the bounds of the two searches;
* `FirstLeast.before`, `LastGreatest.after`
                                      where the list is ordered, the others by key and place.
-/

namespace Extremes

variable {α β κ : Type}

/-- `r x y`: an element `x` that comes later in the list is kept rather than `y` -/
structure Beats (r : α → α → Prop) : Prop where
  trans : ∀ {x y z}, r x y → r y z → r x z
  cotrans : ∀ {x y z}, r x z → r x y ∨ r y z

def pick (r : α → α → Prop) [DecidableRel r] : List α → Option α
  | [] => none
  | a :: l =>
    match pick r l with
    | none => some a
    | some b => if r b a then some b else some a

/-- it beats what comes before it, and nothing that comes after it beats it -/
def Wins (r : α → α → Prop) (l : List α) (x : α) : Prop :=
  ∃ before after, l = before ++ x :: after ∧ (∀ y ∈ before, r x y) ∧ ∀ y ∈ after, ¬ r y x

theorem Wins.mem {r : α → α → Prop} {l : List α} {x : α} (h : Wins r l x) : x ∈ l := by
  obtain ⟨before, after, rfl, -, -⟩ := h
  exact List.mem_append_right _ List.mem_cons_self

section
variable {r : α → α → Prop} [DecidableRel r]

theorem pick_eq_none_iff {l : List α} : pick r l = none ↔ l = [] := by
  cases l with
  | nil => exact ⟨fun _ => rfl, fun _ => rfl⟩
  | cons a l =>
    rw [pick]
    split
    · simp
    · split
      · simp
      · simp

theorem wins_of_pick (hr : Beats r) {l : List α} {x : α} (h : pick r l = some x) : Wins r l x := by
  induction l generalizing x with
  | nil => cases h
  | cons a l ih =>
    rw [pick] at h
    cases hl : pick r l with
    | none =>
      rw [hl] at h
      cases h
      rw [pick_eq_none_iff] at hl
      exact ⟨[], [], by rw [hl]; rfl, by simp, by simp⟩
    | some b =>
      rw [hl] at h
      obtain ⟨before, after, rfl, hbefore, hafter⟩ := ih hl
      by_cases hb : r b a
      · simp only [if_pos hb, Option.some.injEq] at h
        subst h
        exact ⟨a :: before, after, rfl, List.forall_mem_cons.mpr ⟨hb, hbefore⟩, hafter⟩
      · simp only [if_neg hb, Option.some.injEq] at h
        subst h
        refine ⟨[], before ++ b :: after, rfl, by simp, ?_⟩
        intro y hy hya
        rcases List.mem_append.mp hy with hy | hy
        · exact hb (hr.trans (hbefore y hy) hya)
        · rcases List.mem_cons.mp hy with rfl | hy
          · exact hb hya
          · exact (hr.cotrans hya).elim (hafter y hy) hb

theorem pick_of_wins (hr : Beats r) {l : List α} {x : α} (h : Wins r l x) : pick r l = some x := by
  obtain ⟨before, after, rfl, hbefore, hafter⟩ := h
  induction before with
  | nil =>
    rw [List.nil_append, pick]
    cases hl : pick r after with
    | none => rfl
    | some b => simp only [if_neg (hafter b (wins_of_pick hr hl).mem)]
  | cons a before ih =>
    obtain ⟨ha, hbefore⟩ := List.forall_mem_cons.mp hbefore
    rw [List.cons_append, pick, ih hbefore]
    simp only [if_pos ha]

/-- **Where the element stands.** -/
theorem pick_eq_some_iff (hr : Beats r) {l : List α} {x : α} : pick r l = some x ↔ Wins r l x :=
  ⟨wins_of_pick hr, pick_of_wins hr⟩

theorem pick_map {f : β → α} (l : List β) :
    pick r (l.map f) = (pick (fun x y => r (f x) (f y)) l).map f := by
  induction l with
  | nil => rfl
  | cons a l ih =>
    rw [List.map_cons, pick, pick, ih]
    cases pick (fun x y => r (f x) (f y)) l with
    | none => rfl
    | some b =>
      by_cases h : r (f b) (f a)
      · simp [h]
      · simp [h]

end

section
variable [LinearOrder κ]

/-- `min_by_key`: the first of the least elements -/
def minByKey (key : α → κ) (l : List α) : Option α := pick (fun x y => key x < key y) l

/-- `max_by_key`: the last of the greatest elements -/
def maxByKey (key : α → κ) (l : List α) : Option α := pick (fun x y => key y ≤ key x) l

def FirstLeast (key : α → κ) (l : List α) (x : α) : Prop := Wins (fun x y => key x < key y) l x
def LastGreatest (key : α → κ) (l : List α) (x : α) : Prop := Wins (fun x y => key y ≤ key x) l x

theorem beats_lt (key : α → κ) : Beats fun x y => key x < key y := by
  refine ⟨fun h h' => lt_trans h h', fun {x y z} h => ?_⟩
  by_cases hxy : key x < key y
  · exact .inl hxy
  · exact .inr (lt_of_le_of_lt (not_lt.mp hxy) h)

theorem beats_ge (key : α → κ) : Beats fun x y => key y ≤ key x := by
  refine ⟨fun h h' => le_trans h' h, fun {x y z} h => ?_⟩
  rcases le_total (key y) (key x) with hyx | hxy
  · exact .inl hyx
  · exact .inr (le_trans h hxy)

theorem minByKey_eq_some_iff {key : α → κ} {l : List α} {x : α} :
    minByKey key l = some x ↔ FirstLeast key l x := pick_eq_some_iff (beats_lt key)

theorem maxByKey_eq_some_iff {key : α → κ} {l : List α} {x : α} :
    maxByKey key l = some x ↔ LastGreatest key l x := pick_eq_some_iff (beats_ge key)

theorem FirstLeast.le {key : α → κ} {l : List α} {x y : α} (h : FirstLeast key l x) (hy : y ∈ l) :
    key x ≤ key y := by
  obtain ⟨before, after, rfl, hbefore, hafter⟩ := h
  rcases List.mem_append.mp hy with hy | hy
  · exact le_of_lt (hbefore y hy)
  · rcases List.mem_cons.mp hy with rfl | hy
    · exact le_refl _
    · exact not_lt.mp (hafter y hy)

theorem LastGreatest.le {key : α → κ} {l : List α} {x y : α} (h : LastGreatest key l x)
    (hy : y ∈ l) : key y ≤ key x := by
  obtain ⟨before, after, rfl, hbefore, hafter⟩ := h
  rcases List.mem_append.mp hy with hy | hy
  · exact hbefore y hy
  · rcases List.mem_cons.mp hy with rfl | hy
    · exact le_refl _
    · exact le_of_lt (not_le.mp (hafter y hy))

/-- in a list with an order, the others have a greater key or the same key and a later place -/
theorem FirstLeast.before {R : α → α → Prop} {key : α → κ} {l : List α} {x y : α}
    (h : FirstLeast key l x) (hl : l.Pairwise R) (hy : y ∈ l) (hne : y ≠ x) :
    key x < key y ∨ key x = key y ∧ R x y := by
  obtain ⟨before, after, rfl, hbefore, hafter⟩ := h
  rcases List.mem_append.mp hy with hy | hy
  · exact .inl (hbefore y hy)
  · have hy' := (List.mem_cons.mp hy).resolve_left hne
    have hplace : R x y := (List.pairwise_cons.mp (List.pairwise_append.mp hl).2.1).1 y hy'
    rcases lt_or_eq_of_le (not_lt.mp (hafter y hy')) with hlt | heq
    · exact .inl hlt
    · exact .inr ⟨heq, hplace⟩

theorem LastGreatest.after {R : α → α → Prop} {key : α → κ} {l : List α} {x y : α}
    (h : LastGreatest key l x) (hl : l.Pairwise R) (hy : y ∈ l) (hne : y ≠ x) :
    key y < key x ∨ key y = key x ∧ R y x := by
  obtain ⟨before, after, rfl, hbefore, hafter⟩ := h
  rcases List.mem_append.mp hy with hy | hy
  · have hplace : R y x := (List.pairwise_append.mp hl).2.2 y hy x List.mem_cons_self
    rcases lt_or_eq_of_le (hbefore y hy) with hlt | heq
    · exact .inl hlt
    · exact .inr ⟨heq, hplace⟩
  · exact .inl (not_le.mp (hafter y ((List.mem_cons.mp hy).resolve_left hne)))

end

end Extremes
