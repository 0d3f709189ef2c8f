import Mathlib.Data.List.Basic

/-!
# The first element that passes a test

A search takes the first element of a list that passes a test, and looks at it further.

* `Picks p Q l`      the first element of `l` with `p` has `Q`;
* `picks_iff_split`  where it stands in the list;
* `picks_perm_iff`   when the order of the list does not matter.
-/

namespace FirstMatch

variable {α : Type} {p : α → Bool} {Q : α → Prop}

def Picks (p : α → Bool) (Q : α → Prop) (l : List α) : Prop :=
  ∃ a, l.find? p = some a ∧ Q a

/-- the elements of `l` with `p` are alike for `Q` -/
def Agree (p : α → Bool) (Q : α → Prop) (l : List α) : Prop :=
  ∀ a ∈ l, ∀ b ∈ l, p a = true → p b = true → (Q a ↔ Q b)

theorem Picks.exists_mem {l : List α} (h : Picks p Q l) : ∃ a ∈ l, p a = true ∧ Q a := by
  obtain ⟨a, hfind, hq⟩ := h
  exact ⟨a, List.mem_of_find?_eq_some hfind, List.find?_some hfind, hq⟩

theorem picks_iff_split (p : α → Bool) (Q : α → Prop) (l : List α) :
    Picks p Q l ↔ ∃ before a after, l = before ++ a :: after ∧ (∀ b ∈ before, ¬ p b = true) ∧
      p a = true ∧ Q a := by
  constructor
  · rintro ⟨a, hfind, hq⟩
    obtain ⟨hp, before, after, hl, hbefore⟩ := List.find?_eq_some_iff_append.mp hfind
    exact ⟨before, a, after, hl, fun b hb => by simpa using hbefore b hb, hp, hq⟩
  · rintro ⟨before, a, after, hl, hbefore, hp, hq⟩
    refine ⟨a, List.find?_eq_some_iff_append.mpr ⟨hp, before, after, hl, fun b hb => ?_⟩, hq⟩
    simpa using hbefore b hb

theorem picks_of_agree {l : List α} (h : Agree p Q l) :
    Picks p Q l ↔ ∃ a ∈ l, p a = true ∧ Q a := by
  constructor
  · exact Picks.exists_mem
  · rintro ⟨a, ha, hp, hq⟩
    have hsome : (l.find? p).isSome = true := List.find?_isSome.mpr ⟨a, ha, hp⟩
    obtain ⟨b, hfind⟩ := Option.isSome_iff_exists.mp hsome
    have hb := List.mem_of_find?_eq_some hfind
    exact ⟨b, hfind, (h a ha b hb hp (List.find?_some hfind)).mp hq⟩

theorem Agree.perm {l l' : List α} (h : Agree p Q l) (hperm : l'.Perm l) : Agree p Q l' :=
  fun a ha b hb => h a (hperm.mem_iff.mp ha) b (hperm.mem_iff.mp hb)

/-- any element that passes comes first in some order -/
theorem exists_perm_find? {l : List α} {a : α} (ha : a ∈ l) (hp : p a = true) :
    ∃ l' : List α, l'.Perm l ∧ l'.find? p = some a := by
  obtain ⟨before, after, rfl⟩ := List.append_of_mem ha
  exact ⟨a :: (before ++ after), List.perm_middle.symm, List.find?_cons_of_pos hp⟩

/-- **The order does not matter exactly when all that pass the test agree.** -/
theorem picks_perm_iff (l : List α) :
    (∀ l' : List α, l'.Perm l → (Picks p Q l' ↔ Picks p Q l)) ↔ Agree p Q l := by
  constructor
  · intro h
    have hall : ∀ a ∈ l, p a = true → (Q a ↔ Picks p Q l) := fun a ha hp => by
      obtain ⟨l', hperm, hfind⟩ := exists_perm_find? ha hp
      rw [← h l' hperm]
      unfold Picks
      rw [hfind]
      simp
    intro a ha b hb hpa hpb
    rw [hall a ha hpa, hall b hb hpb]
  · intro h l' hperm
    rw [picks_of_agree h, picks_of_agree (h.perm hperm)]
    simp only [hperm.mem_iff]

end FirstMatch
