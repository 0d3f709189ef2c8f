import Mathlib.Data.List.Forall2
import Mathlib.Data.List.Basic

/-!
# What a stateful computation can return

`Prog σ ε α` is a computation that reads and updates a state `σ` and fails with an `ε`.
`Returns m P` is its partial correctness: every value that `m` returns satisfies `P`.  The
rules follow the shape of a program.

* `Returns.pure`, `Returns.bind`, `Returns.throw`, `Returns.mono`   the connectives;
* `Returns.mapM`    a loop that collects one result for each element;
* `mapM_map_hom`    two loops that differ by a relabelling of what they return.
-/

set_option linter.unusedSectionVars false

abbrev Prog (σ ε : Type) := StateT σ (Except ε)

section
variable {σ ε α β γ : Type}

/-- every value that `m` returns satisfies `P` -/
def Returns (m : Prog σ ε α) (P : α → Prop) : Prop :=
  ∀ s a s', m.run s = .ok (a, s') → P a

theorem run_pure_ok {a b : α} {s s' : σ} :
    (pure a : Prog σ ε α).run s = .ok (b, s') ↔ b = a ∧ s' = s := by
  rw [StateT.run_pure]
  constructor
  · intro h
    cases h
    exact ⟨rfl, rfl⟩
  · rintro ⟨rfl, rfl⟩
    rfl

theorem run_throw (e : ε) (s : σ) : (throw e : Prog σ ε α).run s = .error e := rfl

theorem run_throw_ok {e : ε} {b : α} {s s' : σ} :
    (throw e : Prog σ ε α).run s = .ok (b, s') ↔ False := by
  rw [run_throw]
  simp

theorem run_bind_ok {m : Prog σ ε α} {f : α → Prog σ ε β} {s s' : σ} {b : β} :
    (m >>= f).run s = .ok (b, s') ↔ ∃ a t, m.run s = .ok (a, t) ∧ (f a).run t = .ok (b, s') := by
  rw [StateT.run_bind]
  cases h : m.run s with
  | error e =>
    constructor
    · intro h'
      cases h'
    · rintro ⟨a, t, h', -⟩
      cases h'
  | ok p =>
    obtain ⟨a, t⟩ := p
    constructor
    · intro h'
      exact ⟨a, t, rfl, h'⟩
    · rintro ⟨a', t', h', h''⟩
      cases h'
      exact h''

theorem run_map_ok {m : Prog σ ε α} {f : α → β} {s s' : σ} {b : β} :
    (f <$> m).run s = .ok (b, s') ↔ ∃ a, m.run s = .ok (a, s') ∧ f a = b := by
  rw [map_eq_pure_bind, run_bind_ok]
  constructor
  · rintro ⟨a, t, ha, hb⟩
    obtain ⟨rfl, rfl⟩ := run_pure_ok.mp hb
    exact ⟨a, ha, rfl⟩
  · rintro ⟨a, ha, rfl⟩
    exact ⟨a, s', ha, run_pure_ok.mpr ⟨rfl, rfl⟩⟩

namespace Returns

theorem pure {a : α} {P : α → Prop} (h : P a) : Returns (Pure.pure a : Prog σ ε α) P := by
  intro s b s' hr
  obtain ⟨rfl, rfl⟩ := run_pure_ok.mp hr
  exact h

theorem throw {e : ε} {P : α → Prop} : Returns (MonadExcept.throw e : Prog σ ε α) P := by
  intro s b s' hr
  exact (run_throw_ok.mp hr).elim

theorem bind {m : Prog σ ε α} {f : α → Prog σ ε β} {Q : α → Prop} {P : β → Prop}
    (hm : Returns m Q) (hf : ∀ a, Q a → Returns (f a) P) : Returns (m >>= f) P := by
  intro s b s' hr
  obtain ⟨a, t, ha, hb⟩ := run_bind_ok.mp hr
  exact hf a (hm s a t ha) t b s' hb

theorem mono {m : Prog σ ε α} {P Q : α → Prop} (hm : Returns m P) (h : ∀ a, P a → Q a) :
    Returns m Q := fun s a s' hr => h a (hm s a s' hr)

theorem trivial (m : Prog σ ε α) : Returns m fun _ => True := fun _ _ _ _ => True.intro

theorem ite {c : Prop} [Decidable c] {m n : Prog σ ε α} {P : α → Prop}
    (hm : c → Returns m P) (hn : ¬c → Returns n P) : Returns (if c then m else n) P := by
  by_cases h : c
  · rw [if_pos h]
    exact hm h
  · rw [if_neg h]
    exact hn h

/-- a loop that collects one result for each element, which stands for another -/
theorem mapM_of_forall₂ {f : α → Prog σ ε β} {S : γ → α → Prop} {Q : γ → β → Prop} {cs : List γ}
    {l : List α} (hl : List.Forall₂ S cs l) (h : ∀ c a, S c a → Returns (f a) (Q c)) :
    Returns (l.mapM f) fun bs => List.Forall₂ Q cs bs := by
  induction hl with
  | nil =>
    rw [List.mapM_nil]
    exact Returns.pure List.Forall₂.nil
  | cons hc _ ih =>
    rw [List.mapM_cons]
    refine Returns.bind (h _ _ hc) fun b hb => Returns.bind ih fun bs hbs => ?_
    exact Returns.pure (List.Forall₂.cons hb hbs)

/-- **A loop that collects one result for each element.** -/
theorem mapM {f : α → Prog σ ε β} {Q : α → β → Prop} (l : List α)
    (h : ∀ a ∈ l, Returns (f a) (Q a)) : Returns (l.mapM f) fun bs => List.Forall₂ Q l bs := by
  have hl : List.Forall₂ (fun c a => c = a ∧ a ∈ l) l l :=
    List.forall₂_same.mpr fun a ha => ⟨rfl, ha⟩
  refine mapM_of_forall₂ hl fun c a hca => ?_
  rw [hca.1]
  exact h a hca.2

end Returns

/-- **Two loops whose steps differ by a relabelling differ by that relabelling.** -/
theorem mapM_map_hom {m : Type → Type} [Monad m] [LawfulMonad m] {f : α → m β} {g : α → m γ}
    {h : β → γ} (l : List α) (hfg : ∀ a ∈ l, g a = h <$> f a) :
    l.mapM g = List.map h <$> l.mapM f := by
  induction l with
  | nil => simp
  | cons a l ih =>
    rw [List.mapM_cons, List.mapM_cons, hfg a List.mem_cons_self,
      ih fun a' ha' => hfg a' (List.mem_cons_of_mem a ha')]
    simp

end
