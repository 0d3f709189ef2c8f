import Mathlib.Data.List.Basic

/-!
# Runs of a machine whose steps may fail

`step s a` is the state after the action `a`, or `none` when the action cannot be taken.

* `Run.after`       the state that a list of actions leads to;
* `Run.Along`       a condition on every step of a run;
* `Run.after_invariant_along`, `Run.Always.of_invariant`
                    what every step preserves holds in every state that is reached;
* `Run.Recorded.of_invariant`   the same of a run with the actions that were taken;
* `Run.after_rel`   two systems whose steps are related.
-/

namespace Run

section
variable {S A : Type} (step : S → A → Option S)

/-- the state after a list of actions -/
def after (s : S) : List A → Option S
  | [] => some s
  | a :: as =>
    match step s a with
    | none => none
    | some t => after t as

/-- every step of the run from `s` is taken in a state that allows it -/
def Along (C : S → A → Prop) (s : S) : List A → Prop
  | [] => True
  | a :: as => C s a ∧ ∀ t, step s a = some t → Along C t as

/-- `P` holds in every state that a run from `s` reaches -/
def Always (s : S) (P : S → Prop) : Prop := ∀ as t, after step s as = some t → P t

variable {step}

theorem after_cons (s : S) (a : A) (as : List A) :
    after step s (a :: as) = (step s a).bind fun t => after step t as := by
  show (match step s a with
    | none => none
    | some t => after step t as) = _
  cases step s a <;> rfl

theorem after_cons_eq_some {s t : S} {a : A} {as : List A} :
    after step s (a :: as) = some t ↔ ∃ u, step s a = some u ∧ after step u as = some t := by
  rw [after_cons, Option.bind_eq_some_iff]

theorem after_append {s t u : S} {as bs : List A} (has : after step s as = some t)
    (hbs : after step t bs = some u) : after step s (as ++ bs) = some u := by
  induction as generalizing s with
  | nil =>
    cases has
    exact hbs
  | cons a as ih =>
    obtain ⟨v, hv, has⟩ := after_cons_eq_some.mp has
    exact after_cons_eq_some.mpr ⟨v, hv, ih has⟩

/-- **What the steps of a run preserve under their condition holds at its end.** -/
theorem after_invariant_along {I : S → Prop} {C : S → A → Prop}
    (hstep : ∀ s a t, I s → C s a → step s a = some t → I t) {s t : S} {as : List A} (h0 : I s)
    (hC : Along step C s as) (h : after step s as = some t) : I t := by
  induction as generalizing s with
  | nil =>
    cases h
    exact h0
  | cons a as ih =>
    obtain ⟨u, hu, ht⟩ := after_cons_eq_some.mp h
    exact ih (hstep s a u h0 hC.1 hu) (hC.2 u hu) ht

/-- **What every step preserves holds in every state that is reached.** -/
theorem Always.of_invariant {I : S → Prop} {s : S} (h0 : I s)
    (hstep : ∀ s a t, I s → step s a = some t → I t) : Always step s I := by
  intro as
  induction as generalizing s with
  | nil =>
    intro t h
    cases h
    exact h0
  | cons a as ih =>
    intro t h
    obtain ⟨u, hu, ht⟩ := after_cons_eq_some.mp h
    exact ih (hstep s a u h0 hu) t ht

theorem Always.mono {s : S} {P Q : S → Prop} (hP : Always step s P) (h : ∀ t, P t → Q t) :
    Always step s Q := fun as t ht => h t (hP as t ht)

/-! ## runs with their actions -/

variable (step) in
/-- `P` holds of the actions of every run from `s` and the state that they lead to -/
def Recorded (s : S) (P : List A → S → Prop) : Prop := ∀ as t, after step s as = some t → P as t

/-- **What every step preserves, with its action added to the record, holds of every run.** -/
theorem Recorded.of_invariant {I : List A → S → Prop} {s : S} (h0 : I [] s)
    (hstep : ∀ as s a t, I as s → step s a = some t → I (as ++ [a]) t) : Recorded step s I := by
  have hfrom (as : List A) (done : List A) (s : S) (hs : I done s) (t : S)
      (h : after step s as = some t) : I (done ++ as) t := by
    induction as generalizing done s with
    | nil =>
      cases h
      rw [List.append_nil]
      exact hs
    | cons a as ih =>
      obtain ⟨u, hu, ht⟩ := after_cons_eq_some.mp h
      have hu' := ih (done ++ [a]) u (hstep done s a u hs hu) ht
      rw [List.append_assoc] at hu'
      exact hu'
  exact fun as t h => hfrom as [] s h0 t h

theorem Recorded.mono {s : S} {P Q : List A → S → Prop} (hP : Recorded step s P)
    (h : ∀ as t, P as t → Q as t) : Recorded step s Q := fun as t ht => h as t (hP as t ht)

/-! ## two systems side by side -/

/-- **Related states stay related**, when every step takes related states to related states, or stops
in both. -/
theorem after_rel {T : Type} {step' : T → A → Option T} {R : S → T → Prop}
    (hstep : ∀ s t a, R s t → Option.Rel R (step s a) (step' t a)) {s : S} {t : T} (h : R s t)
    (as : List A) : Option.Rel R (after step s as) (after step' t as) := by
  induction as generalizing s t with
  | nil => exact .some h
  | cons a as ih =>
    have hrel := hstep s t a h
    rw [after_cons, after_cons]
    generalize step s a = next at hrel ⊢
    generalize step' t a = next' at hrel ⊢
    cases hrel with
    | none => exact .none
    | some hnext => exact ih hnext

end

end Run
