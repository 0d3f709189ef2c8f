import Isomdl.DigestExecutor.Parallel

/-!
# The worker budget, access by access (`digest_executor.rs`)

Any number of calls of `try_acquire` run at once.  An event is one access to the shared counter: a
load, a compare-exchange, or the `fetch_add` of a lease that is dropped.  Words of `w` bits wrap,
as those of `AtomicUsize` do.

* `Advances.spec`   what one access of one call does;
* `accounted`       in any interleaving every worker is available or leased;
* `simulates`       the accesses of a call take effect at once: `Leases` is what the budget does.
-/

namespace Isomdl

namespace WorkerBudget

/-! ## one call -/

/-- `ParallelDigestWorkerBudget` -/
structure AtomicBudget (w : Nat) where
  available : BitVec w
  capacity : BitVec w
  deriving DecidableEq, Repr

/-- `ParallelDigestWorkerLease` -/
structure ParallelDigestWorkerLease (w : Nat) where
  workerCount : BitVec w
  deriving DecidableEq, Repr

/-- where a call of `try_acquire` is, or the lease that it returned -/
inductive Progress (w : Nat) where
  | loading
  /-- in the loop, with the value that it saw last -/
  | looping (available : BitVec w)
  | refused
  | holding (lease : ParallelDigestWorkerLease w)
  | dropped
  deriving DecidableEq, Repr

/-- an access to the counter -/
inductive Access where
  | load
  /-- a compare-exchange, which may fail spuriously -/
  | compareExchangeWeak (spurious : Bool)
  | drop
  deriving DecidableEq, Repr

variable {w : Nat}

/-- where `try_acquire` begins: a request out of range is refused without an access -/
def Progress.start (capacity workerCount : BitVec w) : Progress w :=
  if workerCount.toNat < 2 ∨ capacity < workerCount then .refused else .loading

/-- `previously_available <= capacity - worker_count`, where the subtraction does not overflow -/
def ReleaseFits (previouslyAvailable capacity workerCount : BitVec w) : Prop :=
  workerCount ≤ capacity ∧ previouslyAvailable ≤ capacity - workerCount

instance (previouslyAvailable capacity workerCount : BitVec w) :
    Decidable (ReleaseFits previouslyAvailable capacity workerCount) :=
  inferInstanceAs (Decidable (_ ∧ _))

/-- an access of a call for `workerCount` workers: the budget, where the call is then, and whether
the debug assertion holds -/
def advance (budget : AtomicBudget w) (workerCount : BitVec w) :
    Progress w → Access → Option (AtomicBudget w × Progress w × Bool)
  | .loading, .load => some (budget, .looping budget.available, true)
  | .looping available, .compareExchangeWeak spurious =>
    if available < workerCount then some (budget, .refused, true)
    else if budget.available = available ∧ spurious = false then
      some ({ budget with available := available - workerCount }, .holding ⟨workerCount⟩, true)
    else some (budget, .looping budget.available, true)
  | .holding lease, .drop =>
    let previouslyAvailable := budget.available
    some ({ budget with available := previouslyAvailable + lease.workerCount }, .dropped,
      ReleaseFits previouslyAvailable budget.capacity lease.workerCount)
  | _, _ => none

/-- the lease that a call has returned and that is not dropped -/
def Progress.lease? : Progress w → Option (ParallelDigestWorkerLease w)
  | .holding lease => some lease
  | _ => none

/-- the workers of that lease -/
def Progress.leased (p : Progress w) : Nat := (p.lease?.map fun lease => lease.workerCount.toNat).getD 0

/-- what is known of a call for `workerCount` workers, wherever it is -/
def Progress.Sound (capacity workerCount : BitVec w) : Progress w → Prop
  | .loading => 2 ≤ workerCount.toNat ∧ workerCount.toNat ≤ capacity.toNat
  | .looping available => (2 ≤ workerCount.toNat ∧ workerCount.toNat ≤ capacity.toNat) ∧
    available.toNat ≤ capacity.toNat
  | .refused => True
  | .holding lease => (2 ≤ workerCount.toNat ∧ workerCount.toNat ≤ capacity.toNat) ∧
    lease.workerCount = workerCount
  | .dropped => True

theorem Progress.sound_start (capacity workerCount : BitVec w) :
    (Progress.start capacity workerCount).Sound capacity workerCount := by
  rw [start]
  split
  · trivial
  · next h =>
    rw [BitVec.lt_def] at h
    show 2 ≤ workerCount.toNat ∧ workerCount.toNat ≤ capacity.toNat
    omega

theorem Progress.leased_start (capacity workerCount : BitVec w) :
    (Progress.start capacity workerCount).lease? = none := by
  rw [start]
  split
  · rfl
  · rfl

/-- the accesses that a call can make, with what they leave -/
inductive Advances (budget : AtomicBudget w) (workerCount : BitVec w) :
    Progress w → AtomicBudget w → Progress w → Bool → Prop
  | load : Advances budget workerCount .loading budget (.looping budget.available) true
  | refuse (available : BitVec w) (h : available < workerCount) :
    Advances budget workerCount (.looping available) budget .refused true
  | acquire (h : ¬ budget.available < workerCount) :
    Advances budget workerCount (.looping budget.available)
      { budget with available := budget.available - workerCount } (.holding ⟨workerCount⟩) true
  | retry (available : BitVec w) :
    Advances budget workerCount (.looping available) budget (.looping budget.available) true
  | release (lease : ParallelDigestWorkerLease w) :
    Advances budget workerCount (.holding lease)
      { budget with available := budget.available + lease.workerCount } .dropped
      (ReleaseFits budget.available budget.capacity lease.workerCount)

theorem advance_cases {budget budget' : AtomicBudget w} {workerCount : BitVec w}
    {p p' : Progress w} {a : Access} {fits : Bool}
    (h : advance budget workerCount p a = some (budget', p', fits)) :
    Advances budget workerCount p budget' p' fits := by
  cases p with
  | loading =>
    cases a with
    | load =>
      cases h
      exact .load
    | compareExchangeWeak spurious => cases h
    | drop => cases h
  | looping available =>
    cases a with
    | load => cases h
    | compareExchangeWeak spurious =>
      rw [advance] at h
      split at h
      · next hcount =>
        cases h
        exact .refuse available hcount
      · next hcount =>
        split at h
        · next hexchange =>
          cases h
          obtain ⟨rfl, -⟩ := hexchange
          exact .acquire hcount
        · cases h
          exact .retry available
    | drop => cases h
  | refused => cases a <;> cases h
  | holding lease =>
    cases a with
    | load => cases h
    | compareExchangeWeak spurious => cases h
    | drop =>
      cases h
      exact .release lease
  | dropped => cases a <;> cases h

/-- what is taken from the budget is not more than what is there -/
theorem toNat_acquire {budget : AtomicBudget w} {workerCount : BitVec w}
    (h : ¬ budget.available < workerCount) :
    (budget.available - workerCount).toNat + workerCount.toNat = budget.available.toNat := by
  rw [BitVec.lt_def] at h
  rw [BitVec.toNat_sub_of_le (BitVec.le_def.mpr (by omega))]
  omega

/-- a lease that is part of the capacity is given back without a wrap -/
theorem toNat_release {budget : AtomicBudget w} {lease : ParallelDigestWorkerLease w}
    (h : budget.available.toNat + lease.workerCount.toNat ≤ budget.capacity.toNat) :
    (budget.available + lease.workerCount).toNat =
      budget.available.toNat + lease.workerCount.toNat := by
  have hlt := budget.capacity.isLt
  rw [BitVec.toNat_add, Nat.mod_eq_of_lt (by omega)]

theorem releaseFits {budget : AtomicBudget w} {lease : ParallelDigestWorkerLease w}
    (h : budget.available.toNat + lease.workerCount.toNat ≤ budget.capacity.toNat) :
    ReleaseFits budget.available budget.capacity lease.workerCount := by
  have hcount : lease.workerCount ≤ budget.capacity := BitVec.le_def.mpr (by omega)
  refine ⟨hcount, ?_⟩
  rw [BitVec.le_def, BitVec.toNat_sub_of_le hcount]
  omega

/-- **What an access does**: what it takes from the budget it adds to the lease of the call, and
the other way round. -/
theorem Advances.spec {budget budget' : AtomicBudget w} {workerCount : BitVec w}
    {p p' : Progress w} {fits : Bool} (h : Advances budget workerCount p budget' p' fits)
    (hp : p.Sound budget.capacity workerCount)
    (hle : budget.available.toNat + p.leased ≤ budget.capacity.toNat) :
    budget'.capacity = budget.capacity ∧
      budget'.available.toNat + p'.leased = budget.available.toNat + p.leased ∧
      p'.Sound budget.capacity workerCount ∧ fits = true := by
  cases h with
  | load => exact ⟨rfl, rfl, ⟨hp, hle⟩, rfl⟩
  | refuse available hcount => exact ⟨rfl, rfl, trivial, rfl⟩
  | acquire hcount => exact ⟨rfl, toNat_acquire hcount, ⟨hp.1, rfl⟩, rfl⟩
  | retry available => exact ⟨rfl, rfl, ⟨hp.1, hle⟩, rfl⟩
  | release lease =>
    exact ⟨rfl, toNat_release hle, trivial, decide_eq_true (releaseFits hle)⟩

/-! ## any number of calls -/

/-- a call and the number of workers it asks for -/
structure Caller (w : Nat) where
  workerCount : BitVec w
  progress : Progress w
  deriving DecidableEq, Repr

/-- the budget, all calls so far, and whether the debug assertion of a release has failed -/
structure State (w : Nat) where
  budget : AtomicBudget w
  callers : List (Caller w)
  overRelease : Bool
  deriving DecidableEq, Repr

/-- a new call, or an access of the `i`-th one -/
inductive Event (w : Nat) where
  | call (workerCount : BitVec w)
  | access (i : Nat) (a : Access)
  deriving DecidableEq, Repr

/-- `ParallelDigestWorkerBudget::new` -/
def State.new (capacity : BitVec w) : State w := ⟨⟨capacity, capacity⟩, [], false⟩

def step (s : State w) : Event w → Option (State w)
  | .call workerCount =>
    some { s with callers := s.callers ++ [⟨workerCount, .start s.budget.capacity workerCount⟩] }
  | .access i a => do
    let c ← s.callers[i]?
    let (budget, progress, fits) ← advance s.budget c.workerCount c.progress a
    some ⟨budget, s.callers.set i { c with progress }, s.overRelease || !fits⟩

/-- the leases that are not dropped -/
def leases (callers : List (Caller w)) : List (ParallelDigestWorkerLease w) :=
  callers.filterMap fun c => c.progress.lease?

/-- the workers of these leases -/
def leased (callers : List (Caller w)) : Nat :=
  ((leases callers).map fun lease => lease.workerCount.toNat).sum

theorem leased_cons (c : Caller w) (callers : List (Caller w)) :
    leased (c :: callers) = c.progress.leased + leased callers := by
  unfold leased leases
  rw [List.filterMap_cons]
  cases h : c.progress.lease? with
  | none =>
    rw [Progress.leased, h]
    exact (Nat.zero_add _).symm
  | some lease =>
    rw [Progress.leased, h, List.map_cons, List.sum_cons]
    rfl

theorem leased_append (before after : List (Caller w)) :
    leased (before ++ after) = leased before + leased after := by
  unfold leased leases
  rw [List.filterMap_append, List.map_append, List.sum_append]

/-- **What a step does**: a call begins, or one call makes an access. -/
theorem step_cases {s t : State w} {e : Event w} (h : step s e = some t) :
    (∃ workerCount, t = { s with
      callers := s.callers ++ [⟨workerCount, .start s.budget.capacity workerCount⟩] }) ∨
    ∃ before c after budget progress fits, s.callers = before ++ c :: after ∧
      Advances s.budget c.workerCount c.progress budget progress fits ∧
      t = ⟨budget, before ++ { c with progress } :: after, s.overRelease || !fits⟩ := by
  cases e with
  | call workerCount =>
    cases h
    exact .inl ⟨workerCount, rfl⟩
  | access i a =>
    obtain ⟨c, hc, h⟩ := Option.bind_eq_some_iff.mp h
    obtain ⟨⟨budget, progress, fits⟩, hadvance, h⟩ := Option.bind_eq_some_iff.mp h
    cases h
    obtain ⟨hi, hget⟩ := List.getElem?_eq_some_iff.mp hc
    refine .inr ⟨s.callers.take i, c, s.callers.drop (i + 1), budget, progress, fits, ?_,
      advance_cases hadvance, ?_⟩
    · rw [← hget, ← List.drop_eq_getElem_cons hi, List.take_append_drop]
    · rw [List.set_eq_take_append_cons_drop, if_pos hi]

/-- every worker is available or leased, every call is sound, and no assertion has failed -/
structure Inv (capacity : BitVec w) (s : State w) : Prop where
  capacity_eq : s.budget.capacity = capacity
  balance : s.budget.available.toNat + leased s.callers = capacity.toNat
  sound : ∀ c ∈ s.callers, c.progress.Sound capacity c.workerCount
  fits : s.overRelease = false

theorem inv_new (capacity : BitVec w) : Inv capacity (State.new capacity) where
  capacity_eq := rfl
  balance := rfl
  sound _ hc := absurd hc List.not_mem_nil
  fits := rfl

section
variable {capacity : BitVec w} {s : State w} {before after : List (Caller w)} {c : Caller w}

/-- what one call has leased is part of what is not available -/
theorem Inv.leased_le (hs : Inv capacity s) (hcallers : s.callers = before ++ c :: after) :
    s.budget.available.toNat + c.progress.leased ≤ s.budget.capacity.toNat := by
  have hbalance := hs.balance
  rw [hcallers, leased_append, leased_cons] at hbalance
  rw [hs.capacity_eq]
  omega

theorem Inv.sound_at (hs : Inv capacity s) (hcallers : s.callers = before ++ c :: after) :
    c.progress.Sound s.budget.capacity c.workerCount := by
  rw [hs.capacity_eq]
  apply hs.sound
  rw [hcallers]
  exact List.mem_append_right _ List.mem_cons_self

end

theorem Inv.step {capacity : BitVec w} {s t : State w} {e : Event w} (hs : Inv capacity s)
    (h : WorkerBudget.step s e = some t) : Inv capacity t := by
  obtain ⟨workerCount, rfl⟩ |
    ⟨before, c, after, budget, progress, fits, hcallers, hadvance, rfl⟩ := step_cases h
  · have hstart := Progress.leased_start capacity workerCount
    refine ⟨hs.capacity_eq, ?_, ?_, hs.fits⟩
    · show s.budget.available.toNat + leased (s.callers ++ [_]) = capacity.toNat
      rw [leased_append, leased_cons, Progress.leased, hs.capacity_eq, hstart]
      exact hs.balance
    · intro c hc
      rcases List.mem_append.mp hc with hc | hc
      · exact hs.sound c hc
      · rw [List.mem_singleton.mp hc, hs.capacity_eq]
        exact Progress.sound_start capacity workerCount
  · obtain ⟨hcap, havailable, hprogress, hfits⟩ :=
      hadvance.spec (hs.sound_at hcallers) (hs.leased_le hcallers)
    have hbalance := hs.balance
    have hsound := hs.sound
    rw [hcallers, leased_append, leased_cons] at hbalance
    rw [hcallers] at hsound
    refine ⟨hcap.trans hs.capacity_eq, ?_, ?_, ?_⟩
    · show budget.available.toNat + leased (before ++ { c with progress } :: after) = capacity.toNat
      rw [leased_append, leased_cons]
      show budget.available.toNat + (leased before + (progress.leased + leased after)) = _
      omega
    · intro c' hc'
      rw [hs.capacity_eq] at hprogress
      rcases List.mem_append.mp hc' with hc' | hc'
      · exact hsound c' (List.mem_append_left _ hc')
      · rcases List.mem_cons.mp hc' with rfl | hc'
        · exact hprogress
        · exact hsound c' (List.mem_append_right _ (List.mem_cons_of_mem _ hc'))
    · show (s.overRelease || !fits) = false
      rw [hs.fits, hfits]
      rfl

/-- what is promised of the budget in every state -/
structure Accounted (capacity : BitVec w) (s : State w) : Prop where
  capacity_eq : s.budget.capacity = capacity
  balance : s.budget.available.toNat + leased s.callers = capacity.toNat
  available_le : s.budget.available.toNat ≤ capacity.toNat
  lease_eq : ∀ c ∈ s.callers, ∀ lease, c.progress = .holding lease →
    lease.workerCount = c.workerCount ∧ 2 ≤ lease.workerCount.toNat ∧
      lease.workerCount.toNat ≤ capacity.toNat
  assertion : s.overRelease = false

/-- **No worker is lost or made**: whatever the capacity, in every interleaving of the accesses of
any number of calls, what is available and what is leased add up to the capacity, a lease has the
size that was asked for, and the debug assertion of a release holds. -/
theorem accounted (capacity : BitVec w) :
    Run.Always step (State.new capacity) (Accounted capacity) := by
  refine (Run.Always.of_invariant (inv_new capacity) fun s e t hs h => hs.step h).mono ?_
  intro s hs
  refine ⟨hs.capacity_eq, hs.balance, ?_, ?_, hs.fits⟩
  · have := hs.balance
    omega
  · intro c hc lease hlease
    have hsound := hs.sound c hc
    rw [hlease] at hsound
    obtain ⟨⟨hlow, hhigh⟩, heq⟩ := hsound
    rw [heq]
    exact ⟨rfl, hlow, hhigh⟩

/-! ## a call takes effect at once -/

/-- the same budget, and the same leases in some order -/
structure Simulates (s : State w) (t : Leases) : Prop where
  budget : t.budget = ⟨s.budget.available.toNat, s.budget.capacity.toNat⟩
  held : t.held.Perm ((leases s.callers).map fun lease => lease.workerCount.toNat)

theorem leases_append (before after : List (Caller w)) :
    leases (before ++ after) = leases before ++ leases after := List.filterMap_append

theorem leases_cons_none {c : Caller w} (h : c.progress.lease? = none) (callers : List (Caller w)) :
    leases (c :: callers) = leases callers := List.filterMap_cons_none h

theorem leases_cons_some {c : Caller w} {lease : ParallelDigestWorkerLease w}
    (h : c.progress.lease? = some lease) (callers : List (Caller w)) :
    leases (c :: callers) = lease :: leases callers := List.filterMap_cons_some h

section
variable {s : State w} {t : Leases} {before after : List (Caller w)} {workerCount : BitVec w}

/-- an access that leaves the budget and the leases alone is no step -/
theorem Simulates.silent {p p' : Progress w} {overRelease : Bool} (ht : Simulates s t)
    (hcallers : s.callers = before ++ ⟨workerCount, p⟩ :: after) (hlease : p'.lease? = p.lease?) :
    Simulates ⟨s.budget, before ++ ⟨workerCount, p'⟩ :: after, overRelease⟩ t := by
  obtain ⟨hbudget, hheld⟩ := ht
  have hleases : leases (before ++ ⟨workerCount, p'⟩ :: after) = leases s.callers := by
    rw [hcallers, leases_append, leases_append]
    unfold leases
    rw [List.filterMap_cons, List.filterMap_cons, hlease]
  refine ⟨hbudget, ?_⟩
  rw [hleases]
  exact hheld

/-- the exchange that succeeds is a call that acquires -/
theorem Simulates.acquire {available : BitVec w} {overRelease : Bool} (ht : Simulates s t)
    (hcallers : s.callers = before ++ ⟨workerCount, .looping available⟩ :: after)
    (hlow : 2 ≤ workerCount.toNat) (hhigh : workerCount.toNat ≤ s.budget.capacity.toNat)
    (hcount : ¬ s.budget.available < workerCount) :
    ∃ t', Leases.step t (.acquire workerCount.toNat) = some t' ∧
      Simulates ⟨{ s.budget with available := s.budget.available - workerCount },
        before ++ ⟨workerCount, .holding ⟨workerCount⟩⟩ :: after, overRelease⟩ t' := by
  obtain ⟨hbudget, hheld⟩ := ht
  have hacquired : (s.budget.available - workerCount).toNat + workerCount.toNat =
      s.budget.available.toNat := toNat_acquire hcount
  have hsub : (s.budget.available - workerCount).toNat =
      s.budget.available.toNat - workerCount.toNat := by omega
  have hlease : t.budget.tryAcquire workerCount.toNat =
      some ⟨(s.budget.available - workerCount).toNat, s.budget.capacity.toNat⟩ := by
    rw [ParallelDigestWorkerBudget.tryAcquire_eq_some, hbudget]
    refine ⟨hlow, hhigh, ?_, ?_⟩
    · show workerCount.toNat ≤ s.budget.available.toNat
      omega
    · rw [hsub]
  refine ⟨_, by rw [Leases.step, hlease], rfl, ?_⟩
  rw [hcallers, leases_append, leases_cons_none rfl, List.map_append] at hheld
  rw [leases_append, leases_cons_some rfl, List.map_append, List.map_cons]
  exact (hheld.cons _).trans List.perm_middle.symm

/-- the `fetch_add` is the end of the call that holds the lease -/
theorem Simulates.release {lease : ParallelDigestWorkerLease w} {overRelease : Bool}
    (ht : Simulates s t) (hcallers : s.callers = before ++ ⟨workerCount, .holding lease⟩ :: after)
    (hle : s.budget.available.toNat + lease.workerCount.toNat ≤ s.budget.capacity.toNat) :
    ∃ i t', Leases.step t (.drop i) = some t' ∧
      Simulates ⟨{ s.budget with available := s.budget.available + lease.workerCount },
        before ++ ⟨workerCount, .dropped⟩ :: after, overRelease⟩ t' := by
  obtain ⟨hbudget, hheld⟩ := ht
  rw [hcallers, leases_append, leases_cons_some rfl, List.map_append, List.map_cons] at hheld
  have hmem : lease.workerCount.toNat ∈ t.held :=
    hheld.mem_iff.mpr (List.mem_append_right _ List.mem_cons_self)
  obtain ⟨i, hi, hget⟩ := List.mem_iff_getElem.mp hmem
  refine ⟨i, ⟨t.budget.release lease.workerCount.toNat, t.held.eraseIdx i⟩, ?_, ?_, ?_⟩
  · rw [Leases.step, List.getElem?_eq_getElem hi, hget]
    rfl
  · rw [hbudget]
    show (⟨_, _⟩ : ParallelDigestWorkerBudget) = ⟨_, _⟩
    rw [toNat_release hle]
  · rw [leases_append, leases_cons_none rfl, List.map_append]
    have hcons : (lease.workerCount.toNat :: t.held.eraseIdx i).Perm t.held := by
      rw [← hget]
      exact List.getElem_cons_eraseIdx_perm hi
    exact (hcons.trans (hheld.trans List.perm_middle)).cons_inv

end

/-- one access is no step of `Leases`, or one step -/
theorem Simulates.step {capacity : BitVec w} {s s' : State w} {t : Leases} {e : Event w}
    (hs : Inv capacity s) (ht : Simulates s t) (h : WorkerBudget.step s e = some s') :
    ∃ events t', Run.after Leases.step t events = some t' ∧ Simulates s' t' := by
  obtain ⟨workerCount, rfl⟩ |
    ⟨before, ⟨workerCount, p⟩, after, budget, progress, fits, hcallers, hadvance, rfl⟩ :=
    step_cases h
  · refine ⟨[], t, rfl, ht.budget, ?_⟩
    have hnil : leases (w := w) [] = [] := rfl
    rw [leases_append, leases_cons_none (Progress.leased_start _ _), hnil, List.append_nil]
    exact ht.held
  · have hc := hs.sound_at hcallers
    have hle := hs.leased_le hcallers
    cases hadvance with
    | load => exact ⟨[], t, rfl, ht.silent hcallers rfl⟩
    | refuse available hcount => exact ⟨[], t, rfl, ht.silent hcallers rfl⟩
    | retry available => exact ⟨[], t, rfl, ht.silent hcallers rfl⟩
    | acquire hcount =>
      obtain ⟨t', hstep, hsim⟩ := ht.acquire hcallers hc.1.1 hc.1.2 hcount
      exact ⟨[_], t', Run.after_cons_eq_some.mpr ⟨t', hstep, rfl⟩, hsim⟩
    | release lease =>
      obtain ⟨i, t', hstep, hsim⟩ := ht.release hcallers hle
      exact ⟨[_], t', Run.after_cons_eq_some.mpr ⟨t', hstep, rfl⟩, hsim⟩

/-- **The accesses of a call take effect at once**: the budget and the leases of any interleaving
are those of a run of `Leases`, whose calls do not overlap. -/
theorem simulates (capacity : BitVec w) :
    Run.Always step (State.new capacity) fun s => ∃ events t,
      Run.after Leases.step ⟨.new capacity.toNat, []⟩ events = some t ∧ Simulates s t := by
  have hinv : Run.Always step (State.new capacity) fun s => Inv capacity s ∧ ∃ events t,
      Run.after Leases.step ⟨.new capacity.toNat, []⟩ events = some t ∧ Simulates s t := by
    refine Run.Always.of_invariant ⟨inv_new capacity, [], _, rfl, rfl, .nil⟩ ?_
    rintro s e s' ⟨hs, events, t, ht, hsim⟩ h
    obtain ⟨events', t', ht', hsim'⟩ := hsim.step hs h
    exact ⟨hs.step h, events ++ events', t', Run.after_append ht ht', hsim'⟩
  exact hinv.mono fun s hs => hs.2

end WorkerBudget

end Isomdl
