import Isomdl.Lib.Returns

/-!
# Computations with a record of their calls

`Traced κ ε α` ends in a value or in an `ε`, and keeps the calls `κ` it has made by then, also
when it fails.  A step that fails ends the computation: what it has called stays on record, and
nothing more is called.

* `ok_bind`, `error_bind`, `call_bind`   one step;
* `result_bind`                          without the record it is a computation in `Except ε`;
* `erase_bind`, `erase_mapM`             with a state, it is one in `Prog` without the record;
* `Keeps.bind`, `Keeps.mapM`             what such a computation returns when its calls are good.
-/

@[ext] structure Traced (κ ε α : Type) where
  calls : List κ
  result : Except ε α

namespace Traced

variable {κ ε α β : Type}

instance : Monad (Traced κ ε) where
  pure a := ⟨[], .ok a⟩
  bind m f :=
    match m.result with
    | .ok a => ⟨m.calls ++ (f a).calls, (f a).result⟩
    | .error e => ⟨m.calls, .error e⟩

theorem bind_assoc {γ : Type} (m : Traced κ ε α) (f : α → Traced κ ε β) (g : β → Traced κ ε γ) :
    m >>= f >>= g = m >>= fun a => f a >>= g := by
  obtain ⟨calls, result⟩ := m
  cases result with
  | error e => rfl
  | ok a =>
    cases hf : f a with
    | mk calls' result' =>
      cases result' with
      | error e => simp [bind, hf]
      | ok b => simp [bind, hf, List.append_assoc]

instance : LawfulMonad (Traced κ ε) := LawfulMonad.mk' _
  (by
    intro α m
    obtain ⟨calls, result⟩ := m
    cases result with
    | error e => rfl
    | ok a =>
      show (⟨calls ++ [], .ok a⟩ : Traced κ ε α) = _
      rw [List.append_nil])
  (by
    intro α β a f
    show (⟨[] ++ (f a).calls, (f a).result⟩ : Traced κ ε β) = f a
    rw [List.nil_append])
  bind_assoc

/-- a call that answers -/
def call (k : κ) (x : Except ε α) : Traced κ ε α := ⟨[k], x⟩

/-- a step that calls nothing -/
def ofExcept (x : Except ε α) : Traced κ ε α := ⟨[], x⟩

theorem ok_bind (a : α) (f : α → Traced κ ε β) : ofExcept (.ok a) >>= f = f a := by
  show (⟨[] ++ (f a).calls, (f a).result⟩ : Traced κ ε β) = f a
  rw [List.nil_append]

theorem error_bind (e : ε) (f : α → Traced κ ε β) :
    (ofExcept (.error e) : Traced κ ε α) >>= f = ⟨[], .error e⟩ := rfl

theorem call_bind (k : κ) (a : α) (f : α → Traced κ ε β) :
    call k (.ok a) >>= f = ⟨k :: (f a).calls, (f a).result⟩ := rfl

theorem result_bind (m : Traced κ ε α) (f : α → Traced κ ε β) :
    (m >>= f).result = m.result >>= fun a => (f a).result := by
  obtain ⟨calls, result⟩ := m
  cases result with
  | ok a => rfl
  | error e => rfl

end Traced

/-! ## with a state -/

abbrev TracedProg (σ κ ε : Type) := StateT σ (Traced κ ε)

namespace TracedProg

variable {σ κ ε α β : Type}

/-- a step that calls nothing -/
def quiet (m : Prog σ ε α) : TracedProg σ κ ε α := fun s => Traced.ofExcept (m.run s)

/-- the computation without the record -/
def erase (m : TracedProg σ κ ε α) : Prog σ ε α := fun s => (m.run s).result

theorem erase_quiet (m : Prog σ ε α) : erase (quiet m : TracedProg σ κ ε α) = m := rfl

theorem erase_bind (m : TracedProg σ κ ε α) (f : α → TracedProg σ κ ε β) :
    erase (m >>= f) = erase m >>= fun a => erase (f a) := by
  funext s
  show (m.run s >>= fun p => (f p.1).run p.2).result = _
  rw [Traced.result_bind]
  rfl

theorem erase_mapM {f : α → TracedProg σ κ ε β} {g : α → Prog σ ε β} (l : List α)
    (h : ∀ a ∈ l, erase (f a) = g a) : erase (l.mapM f) = l.mapM g := by
  induction l with
  | nil => rfl
  | cons a l ih =>
    rw [List.mapM_cons, List.mapM_cons, erase_bind, h a List.mem_cons_self]
    congr 1
    funext b
    rw [erase_bind, ih fun a' ha' => h a' (List.mem_cons_of_mem a ha')]
    rfl

/-- every value that is returned satisfies `P`, if all calls by then are good -/
def Keeps (good : κ → Prop) (m : TracedProg σ κ ε α) (P : α → Prop) : Prop :=
  ∀ s, (∀ k ∈ (m.run s).calls, good k) → ∀ a s', (m.run s).result = .ok (a, s') → P a

namespace Keeps

variable {good : κ → Prop}

theorem pure {a : α} {P : α → Prop} (h : P a) :
    Keeps good (Pure.pure a : TracedProg σ κ ε α) P := by
  intro s _ b s' hr
  cases hr
  exact h

theorem quiet {m : Prog σ ε α} {P : α → Prop} (h : Returns m P) :
    Keeps good (TracedProg.quiet m : TracedProg σ κ ε α) P :=
  fun s _ a s' hr => h s a s' hr

theorem bind {m : TracedProg σ κ ε α} {f : α → TracedProg σ κ ε β} {Q : α → Prop} {P : β → Prop}
    (hm : Keeps good m Q) (hf : ∀ a, Q a → Keeps good (f a) P) : Keeps good (m >>= f) P := by
  intro s hcalls b s' hr
  cases hrun : m.run s with
  | mk calls result =>
    have hbind : (m >>= f).run s =
        (⟨calls, result⟩ : Traced κ ε (α × σ)) >>= fun p => (f p.1).run p.2 := by
      rw [← hrun]
      rfl
    rw [hbind] at hcalls hr
    cases result with
    | error e => cases hr
    | ok p =>
      obtain ⟨a, t⟩ := p
      have hcalls' : ∀ k ∈ calls ++ ((f a).run t).calls, good k := hcalls
      have ha : Q a := by
        refine hm s ?_ a t ?_
        · rw [hrun]
          exact fun k hk => hcalls' k (List.mem_append_left _ hk)
        · rw [hrun]
      exact hf a ha t (fun k hk => hcalls' k (List.mem_append_right _ hk)) b s' hr

theorem mono {m : TracedProg σ κ ε α} {P Q : α → Prop} (hm : Keeps good m P) (h : ∀ a, P a → Q a) :
    Keeps good m Q := fun s hcalls a s' hr => h a (hm s hcalls a s' hr)

theorem ite {c : Prop} [Decidable c] {m n : TracedProg σ κ ε α} {P : α → Prop}
    (hm : c → Keeps good m P) (hn : ¬c → Keeps good n P) : Keeps good (if c then m else n) P := by
  by_cases h : c
  · rw [if_pos h]
    exact hm h
  · rw [if_neg h]
    exact hn h

/-- **A loop that collects one result for each element.** -/
theorem mapM {f : α → TracedProg σ κ ε β} {P : β → Prop} (l : List α)
    (h : ∀ a ∈ l, Keeps good (f a) P) : Keeps good (l.mapM f) fun bs => ∀ b ∈ bs, P b := by
  induction l with
  | nil =>
    rw [List.mapM_nil]
    exact Keeps.pure fun b hb => absurd hb List.not_mem_nil
  | cons a l ih =>
    rw [List.mapM_cons]
    refine Keeps.bind (h a List.mem_cons_self) fun b hb => ?_
    refine Keeps.bind (ih fun a' ha' => h a' (List.mem_cons_of_mem a ha')) fun bs hbs => ?_
    exact Keeps.pure (List.forall_mem_cons.mpr ⟨hb, hbs⟩)

end Keeps

end TracedProg
