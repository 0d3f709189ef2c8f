import Isomdl.DigestExecutor
import Isomdl.Lib.Run
import Isomdl.Lib.Slice
import Isomdl.Reference
import Mathlib.Algebra.BigOperators.Group.List.Basic

/-!
# The native and the adaptive executor (`digest_executor.rs`)

A native executor takes workers from the budget of a process-wide pool, hands them contiguous
chunks of the jobs, and gives the workers back.  Without enough free workers it runs serially.  The
adaptive executor decides between the two from the size of the work.  `rayon` keeps the order of
the chunks it collects.

* `staticChunkSize_partition`    the chunks are the jobs, and there are no more than workers;
* `executeWithPool_eq`           a call that takes its lease;
* `parallel_eq_serial`           both executors return what the serial one returns;
* `Leases.conserved`             over any calls at once, no worker is lost or made.
-/

namespace Isomdl

/-- `MAX_PARALLEL_DIGEST_WORKERS` -/
def MAX_PARALLEL_DIGEST_WORKERS : Nat := 8

/-- how a call of `execute` ends: it returns, or a panic unwinds out of it -/
inductive Execution where
  | returned (result : Option (List DigestResult))
  | panicked
  deriving DecidableEq, Repr

/-- `DigestWorker`; without a result it panics -/
abbrev DigestWorker := DigestJob → Option DigestResult

/-! ## the worker budget -/

/-- `ParallelDigestWorkerBudget` -/
structure ParallelDigestWorkerBudget where
  available : Nat
  capacity : Nat
  deriving DecidableEq, Repr

namespace ParallelDigestWorkerBudget

def new (capacity : Nat) : ParallelDigestWorkerBudget := ⟨capacity, capacity⟩

/-- `try_acquire`: what is left after the lease.  The compare-exchange loop takes effect at once,
on the value that it observed last (`WorkerBudget.simulates`). -/
def tryAcquire (b : ParallelDigestWorkerBudget) (workerCount : Nat) :
    Option ParallelDigestWorkerBudget :=
  if workerCount < 2 ∨ b.capacity < workerCount then none
  else if b.available < workerCount then none
  else some { b with available := b.available - workerCount }

/-- a lease is dropped -/
def release (b : ParallelDigestWorkerBudget) (workerCount : Nat) : ParallelDigestWorkerBudget :=
  { b with available := b.available + workerCount }

theorem tryAcquire_eq_some {b b' : ParallelDigestWorkerBudget} {workerCount : Nat} :
    b.tryAcquire workerCount = some b' ↔
      2 ≤ workerCount ∧ workerCount ≤ b.capacity ∧ workerCount ≤ b.available ∧
        b' = { b with available := b.available - workerCount } := by
  unfold tryAcquire
  by_cases hcount : workerCount < 2 ∨ b.capacity < workerCount
  · rw [if_pos hcount]
    simp only [reduceCtorEq, false_iff]
    omega
  rw [if_neg hcount]
  by_cases havailable : b.available < workerCount
  · rw [if_pos havailable]
    simp only [reduceCtorEq, false_iff]
    omega
  rw [if_neg havailable, Option.some_inj, eq_comm]
  constructor
  · intro h
    exact ⟨by omega, by omega, by omega, h⟩
  · intro h
    exact h.2.2.2

end ParallelDigestWorkerBudget

/-! ## all calls at once -/

/-- the budget and the leases that calls hold -/
structure Leases where
  budget : ParallelDigestWorkerBudget
  held : List Nat

/-- a call asks for workers, or the call with the `i`-th lease ends -/
inductive LeaseEvent where
  | acquire (workerCount : Nat)
  | drop (i : Nat)

namespace Leases

def step (s : Leases) : LeaseEvent → Option Leases
  | .acquire workerCount =>
    match s.budget.tryAcquire workerCount with
    | some budget => some ⟨budget, workerCount :: s.held⟩
    | none => some s
  | .drop i => (s.held[i]?).map fun workerCount =>
    ⟨s.budget.release workerCount, s.held.eraseIdx i⟩

/-- every worker is available or leased -/
def Conserved (capacity : Nat) (s : Leases) : Prop :=
  s.budget.capacity = capacity ∧ s.budget.available + s.held.sum = capacity

theorem Conserved.step {capacity : Nat} {s t : Leases} {e : LeaseEvent} (h : Conserved capacity s)
    (hstep : s.step e = some t) : Conserved capacity t := by
  obtain ⟨hcapacity, hsum⟩ := h
  cases e with
  | acquire workerCount =>
    unfold Leases.step at hstep
    dsimp only at hstep
    cases hacquire : s.budget.tryAcquire workerCount with
    | none =>
      rw [hacquire] at hstep
      cases hstep
      exact ⟨hcapacity, hsum⟩
    | some budget =>
      rw [hacquire] at hstep
      cases hstep
      obtain ⟨-, -, havailable, rfl⟩ :=
        ParallelDigestWorkerBudget.tryAcquire_eq_some.mp hacquire
      refine ⟨hcapacity, ?_⟩
      show s.budget.available - workerCount + (workerCount :: s.held).sum = capacity
      rw [List.sum_cons]
      omega
  | drop i =>
    obtain ⟨workerCount, hheld, rfl⟩ := Option.map_eq_some_iff.mp hstep
    obtain ⟨hi, hget⟩ := List.getElem?_eq_some_iff.mp hheld
    have herase := List.CommMonoid.add_sum_eraseIdx hi
    rw [hget] at herase
    refine ⟨hcapacity, ?_⟩
    show s.budget.available + workerCount + (s.held.eraseIdx i).sum = capacity
    omega

/-- **Every lease comes back**: in any interleaving of calls on a pool, every worker is available or
leased, so the budget is never over-released and is whole when no call is running. -/
theorem conserved (capacity : Nat) :
    Run.Always step ⟨.new capacity, []⟩ (Conserved capacity) :=
  Run.Always.of_invariant ⟨rfl, rfl⟩ fun _ _ _ h hstep => h.step hstep

end Leases

/-- `NativeDigestPool`, with the number of its threads -/
structure NativeDigestPool where
  threads : Nat
  budget : ParallelDigestWorkerBudget
  deriving DecidableEq, Repr

/-- `NativeDigestPool::new`, where the threads can be started -/
def NativeDigestPool.new (workerCount : Nat) : Option NativeDigestPool :=
  if workerCount = 0 ∨ MAX_PARALLEL_DIGEST_WORKERS < workerCount then none
  else some ⟨workerCount, .new workerCount⟩

/-! ## the native executor -/

/-- `static_chunk_size` -/
def staticChunkSize (jobCount workerCount : Nat) : Nat :=
  jobCount / workerCount + if jobCount % workerCount = 0 then 0 else 1

/-- `jobs.iter().map(worker).collect()` on the calling thread -/
def runSerially (worker : DigestWorker) (jobs : List DigestJob) : Execution :=
  match jobs.mapM worker with
  | some results => .returned (some results)
  | none => .panicked

/-- the workers' results, collected in order; without one when a worker panics, or `par_chunks`
does on an empty chunk size -/
def runInChunks (worker : DigestWorker) (jobs : List DigestJob) (chunkSize : Nat) :
    Option (List DigestResult) :=
  if chunkSize = 0 then none
  else
    ((Slice.chunks chunkSize jobs).mapM fun chunk : List DigestJob => chunk.mapM worker).map
      List.flatten

/-- `NativeParallelDigestExecutor` -/
structure NativeParallelDigestExecutor where
  workerCount : Nat
  worker : DigestWorker

namespace NativeParallelDigestExecutor

/-- `new`, for a count that is not zero -/
def new (workerCount : Nat) (worker : DigestWorker) : NativeParallelDigestExecutor :=
  ⟨min workerCount MAX_PARALLEL_DIGEST_WORKERS, worker⟩

/-- the number of workers a call asks for -/
def requested (e : NativeParallelDigestExecutor) (jobs : List DigestJob) (pool : NativeDigestPool) :
    Nat :=
  min (min e.workerCount pool.threads) jobs.length

/-- `execute_with_pool`, with what other calls make of the available workers while the lease is
held -/
def executeWithPool (e : NativeParallelDigestExecutor) (jobs : List DigestJob)
    (pool : NativeDigestPool) (others : Nat → Nat) : Execution × NativeDigestPool :=
  let workerCount := e.requested jobs pool
  match pool.budget.tryAcquire workerCount with
  | none => (runSerially e.worker jobs, pool)
  | some budget =>
    let chunkSize := staticChunkSize jobs.length workerCount
    let result := (runInChunks e.worker jobs chunkSize).bind fun results =>
      if results.length = jobs.length then some results else none
    let budget := { budget with available := others budget.available }
    (.returned result, { pool with budget := budget.release workerCount })

/-- `execute`, with the pool that `native_digest_pool` finds or makes -/
def execute (e : NativeParallelDigestExecutor) (jobs : List DigestJob)
    (pool : Option NativeDigestPool) (others : Nat → Nat) : Execution × Option NativeDigestPool :=
  if jobs.length < 2 ∨ e.workerCount < 2 then (runSerially e.worker jobs, pool)
  else
    match pool with
    | none => (.returned none, none)
    | some pool =>
      let (execution, pool) := e.executeWithPool jobs pool others
      (execution, some pool)

end NativeParallelDigestExecutor

/-! ## the adaptive executor -/

def ADAPTIVE_PARALLEL_MIN_DIGEST_JOBS : Nat := 512
def ADAPTIVE_PARALLEL_MIN_INPUT_BYTES : Nat := 2 * 1024 * 1024
def ADAPTIVE_PARALLEL_MAX_WORKERS : Nat := 4

inductive AdaptiveDigestExecutionMode where
  | Serial
  | NativeParallel (workerCount : Nat)
  deriving DecidableEq, Repr

/-- the lengths of the inputs, added up in a saturating `u128` -/
def inputBytes (jobs : List DigestJob) : Nat :=
  jobs.foldl (fun total job => min (total + job.input.length) (2 ^ 128 - 1)) 0

/-- `select_adaptive_digest_execution_mode` -/
def selectAdaptiveDigestExecutionMode (jobs : List DigestJob) (availableParallelism : Nat) :
    AdaptiveDigestExecutionMode :=
  if jobs.length < ADAPTIVE_PARALLEL_MIN_DIGEST_JOBS then .Serial
  else
    let totalInputBytes := inputBytes jobs
    if totalInputBytes < ADAPTIVE_PARALLEL_MIN_INPUT_BYTES then .Serial
    else
      let workerCount := min (min availableParallelism ADAPTIVE_PARALLEL_MAX_WORKERS) jobs.length
      if workerCount < 2 then .Serial
      else
        let chunkSize := staticChunkSize jobs.length workerCount
        let largestChunkBytes := ((Slice.chunks chunkSize jobs).map inputBytes).foldl max 0
        let halfTotalRoundedUp := totalInputBytes / 2 + totalInputBytes % 2
        if halfTotalRoundedUp < largestChunkBytes then .Serial
        else .NativeParallel workerCount

section
variable [Sha2]

/-- `AdaptiveDigestExecutor::execute`; a worker count of zero would panic -/
def adaptiveExecute (worker : DigestWorker) (jobs : List DigestJob) (availableParallelism : Nat)
    (pool : Option NativeDigestPool) (others : Nat → Nat) : Execution × Option NativeDigestPool :=
  match selectAdaptiveDigestExecutionMode jobs availableParallelism with
  | .Serial => (.returned (serialDigestExecutor jobs), pool)
  | .NativeParallel workerCount =>
    if workerCount = 0 then (.panicked, pool)
    else (NativeParallelDigestExecutor.new workerCount worker).execute jobs pool others

end

/-! ## chunks -/

theorem staticChunkSize_eq {jobCount workerCount : Nat} (hworkers : 0 < workerCount) :
    staticChunkSize jobCount workerCount = (jobCount + workerCount - 1) / workerCount := by
  unfold staticChunkSize
  have hdiv := Nat.div_add_mod jobCount workerCount
  have hlt := Nat.mod_lt jobCount hworkers
  generalize jobCount / workerCount = q at hdiv ⊢
  generalize jobCount % workerCount = r at hdiv hlt ⊢
  subst hdiv
  by_cases hr : r = 0
  · subst hr
    rw [if_pos rfl, Nat.add_zero, Nat.add_zero, Nat.add_sub_assoc hworkers,
      Nat.mul_add_div hworkers, Nat.div_eq_of_lt (by omega), Nat.add_zero]
  · have hsplit : workerCount * q + r + workerCount - 1 = workerCount * (q + 1) + (r - 1) := by
      rw [Nat.mul_add, Nat.mul_one]
      omega
    rw [if_neg hr, hsplit, Nat.mul_add_div hworkers, Nat.div_eq_of_lt (by omega), Nat.add_zero]

theorem staticChunkSize_pos {jobCount workerCount : Nat} (hjobs : 0 < jobCount)
    (hworkers : 0 < workerCount) : 0 < staticChunkSize jobCount workerCount := by
  rw [staticChunkSize_eq hworkers]
  exact Nat.div_pos (by omega) hworkers

/-- no more chunks than workers -/
theorem length_chunks_le {jobs : List DigestJob} {workerCount : Nat} (hjobs : 0 < jobs.length)
    (hworkers : 0 < workerCount) :
    (Slice.chunks (staticChunkSize jobs.length workerCount) jobs).length ≤ workerCount := by
  have hsize := staticChunkSize_pos hjobs hworkers
  have hcover := Slice.length_le_ceil_mul hworkers jobs.length
  rw [← staticChunkSize_eq hworkers] at hcover
  rw [Slice.length_chunks]
  generalize staticChunkSize jobs.length workerCount = size at hsize hcover
  have hlt : jobs.length + size - 1 < size * (workerCount + 1) := by
    rw [Nat.mul_add, Nat.mul_one]
    omega
  have hdiv := Nat.div_lt_of_lt_mul hlt
  omega

/-- **The chunks partition the jobs**: none is lost or repeated, and no chunk size is zero. -/
theorem staticChunkSize_partition {jobs : List DigestJob} {workerCount : Nat}
    (hjobs : 0 < jobs.length) (hworkers : 0 < workerCount) :
    0 < staticChunkSize jobs.length workerCount ∧
      (Slice.chunks (staticChunkSize jobs.length workerCount) jobs).flatten = jobs ∧
      (Slice.chunks (staticChunkSize jobs.length workerCount) jobs).length ≤ workerCount := by
  have hsize := staticChunkSize_pos hjobs hworkers
  exact ⟨hsize, Slice.flatten_chunks hsize jobs, length_chunks_le hjobs hworkers⟩

/-! ## one call -/

theorem runInChunks_eq {worker : DigestWorker} {jobs : List DigestJob} {chunkSize : Nat}
    (h : 0 < chunkSize) : runInChunks worker jobs chunkSize = jobs.mapM worker := by
  rw [runInChunks, if_neg (by omega), Slice.mapM_chunks h]

theorem mapM_eq_none {worker : DigestWorker} {jobs : List DigestJob} {job : DigestJob}
    (hmem : job ∈ jobs) (h : worker job = none) : jobs.mapM worker = none := by
  induction jobs with
  | nil => cases hmem
  | cons j jobs ih =>
    rw [List.mapM_cons]
    cases List.mem_cons.mp hmem with
    | inl heq =>
      rw [← heq, h]
      rfl
    | inr hmem =>
      rw [ih hmem]
      cases worker j <;> rfl

theorem length_mapM {worker : DigestWorker} {jobs : List DigestJob} {results : List DigestResult}
    (h : jobs.mapM worker = some results) : results.length = jobs.length := by
  induction jobs generalizing results with
  | nil =>
    cases h
    rfl
  | cons j jobs ih =>
    rw [List.mapM_cons] at h
    obtain ⟨r, -, h⟩ := Option.bind_eq_some_iff.mp h
    obtain ⟨rs, hrs, h⟩ := Option.bind_eq_some_iff.mp h
    cases h
    exact congrArg (· + 1) (ih hrs)

namespace NativeParallelDigestExecutor

/-- **A call that takes its lease** returns what the workers return, or the error when one of them
panics, and gives its workers back. -/
theorem executeWithPool_eq {e : NativeParallelDigestExecutor} {jobs : List DigestJob}
    {pool : NativeDigestPool} {others : Nat → Nat} {budget : ParallelDigestWorkerBudget}
    (h : pool.budget.tryAcquire (e.requested jobs pool) = some budget) :
    e.executeWithPool jobs pool others =
      (.returned (jobs.mapM e.worker),
        { pool with
          budget :=
            { pool.budget with
              available := others (pool.budget.available - e.requested jobs pool) +
                e.requested jobs pool } }) := by
  obtain ⟨hcount, -, -, rfl⟩ := ParallelDigestWorkerBudget.tryAcquire_eq_some.mp h
  have hjobs : 0 < jobs.length := by
    have hle : e.requested jobs pool ≤ jobs.length := Nat.min_le_right _ _
    omega
  unfold executeWithPool
  dsimp only
  rw [h, runInChunks_eq (staticChunkSize_pos hjobs (by omega))]
  have hlen : ((jobs.mapM e.worker).bind fun results =>
      if results.length = jobs.length then some results else none) = jobs.mapM e.worker := by
    cases hresults : jobs.mapM e.worker with
    | none => rfl
    | some results => exact if_pos (length_mapM hresults)
  dsimp only
  rw [hlen]
  rfl

end NativeParallelDigestExecutor

/-- a call on the pool path: it asks for its lease and gets it -/
structure OnPool (e : NativeParallelDigestExecutor) (jobs : List DigestJob)
    (pool : NativeDigestPool) : Prop where
  two_jobs : 2 ≤ jobs.length
  two_workers : 2 ≤ e.workerCount
  leased : (pool.budget.tryAcquire (e.requested jobs pool)).isSome

/-- **On the pool path** the call returns the workers' results or the error, and its lease comes
back, whatever others did to the budget meanwhile. -/
theorem OnPool.execute {e : NativeParallelDigestExecutor} {jobs : List DigestJob}
    {pool : NativeDigestPool} (h : OnPool e jobs pool) (others : Nat → Nat) :
    e.execute jobs (some pool) others =
      (.returned (jobs.mapM e.worker),
        some { pool with
          budget :=
            { pool.budget with
              available := others (pool.budget.available - e.requested jobs pool) +
                e.requested jobs pool } }) := by
  have hjobs := h.two_jobs
  have hworkers := h.two_workers
  obtain ⟨budget, hbudget⟩ := Option.isSome_iff_exists.mp h.leased
  unfold NativeParallelDigestExecutor.execute
  rw [if_neg (by omega)]
  dsimp only
  rw [NativeParallelDigestExecutor.executeWithPool_eq hbudget]

theorem selectAdaptive_pos {jobs : List DigestJob} {availableParallelism workerCount : Nat}
    (h : selectAdaptiveDigestExecutionMode jobs availableParallelism = .NativeParallel workerCount) :
    2 ≤ workerCount := by
  unfold selectAdaptiveDigestExecutionMode at h
  dsimp only at h
  split_ifs at h
  cases h
  omega

/-! ## both executors are the serial one -/

section
variable [Sha2]

/-- no worker panics: every job of the list is hashed -/
def Hashes (worker : DigestWorker) (jobs : List DigestJob) : Prop :=
  ∀ job ∈ jobs, worker job = some (executeDigestJob job)

theorem Hashes.mapM {worker : DigestWorker} {jobs : List DigestJob} (h : Hashes worker jobs) :
    jobs.mapM worker = serialDigestExecutor jobs := by
  induction jobs with
  | nil => rfl
  | cons j jobs ih =>
    rw [List.mapM_cons, h j List.mem_cons_self,
      ih fun job hjob => h job (List.mem_cons_of_mem j hjob)]
    rfl

theorem Hashes.runSerially {worker : DigestWorker} {jobs : List DigestJob}
    (h : Hashes worker jobs) :
    Isomdl.runSerially worker jobs = .returned (serialDigestExecutor jobs) := by
  unfold Isomdl.runSerially
  rw [h.mapM]
  rfl

theorem execute_eq_serial {e : NativeParallelDigestExecutor} {jobs : List DigestJob}
    (h : Hashes e.worker jobs) (pool : NativeDigestPool) (others : Nat → Nat) :
    (e.execute jobs (some pool) others).1 = .returned (serialDigestExecutor jobs) := by
  unfold NativeParallelDigestExecutor.execute
  by_cases hserial : jobs.length < 2 ∨ e.workerCount < 2
  · rw [if_pos hserial]
    exact h.runSerially
  rw [if_neg hserial]
  show (e.executeWithPool jobs pool others).1 = _
  cases hlease : pool.budget.tryAcquire (e.requested jobs pool) with
  | none =>
    unfold NativeParallelDigestExecutor.executeWithPool
    dsimp only
    rw [hlease]
    exact h.runSerially
  | some budget =>
    rw [NativeParallelDigestExecutor.executeWithPool_eq hlease]
    exact congrArg Execution.returned h.mapM

theorem adaptiveExecute_native {worker : DigestWorker} {jobs : List DigestJob}
    {availableParallelism workerCount : Nat} {pool : Option NativeDigestPool} {others : Nat → Nat}
    (h : selectAdaptiveDigestExecutionMode jobs availableParallelism = .NativeParallel workerCount) :
    adaptiveExecute worker jobs availableParallelism pool others =
      (NativeParallelDigestExecutor.new workerCount worker).execute jobs pool others := by
  have hcount := selectAdaptive_pos h
  unfold adaptiveExecute
  rw [h]
  dsimp only
  rw [if_neg (by omega)]

theorem adaptiveExecute_eq_serial {worker : DigestWorker} {jobs : List DigestJob}
    (h : Hashes worker jobs) (availableParallelism : Nat) (pool : NativeDigestPool)
    (others : Nat → Nat) :
    (adaptiveExecute worker jobs availableParallelism (some pool) others).1 =
      .returned (serialDigestExecutor jobs) := by
  cases hmode : selectAdaptiveDigestExecutionMode jobs availableParallelism with
  | Serial =>
    unfold adaptiveExecute
    rw [hmode]
  | NativeParallel workerCount =>
    rw [adaptiveExecute_native hmode]
    exact execute_eq_serial h pool others

/-- **The native and the adaptive executor equal the serial one.**  When no worker panics both
return the serial results; the chunks partition the jobs; and on the pool path a panicking worker
leaves only the error, and the lease comes back. -/
theorem parallel_eq_serial :
    (∀ (e : NativeParallelDigestExecutor) (jobs : List DigestJob) (pool : NativeDigestPool)
      (others : Nat → Nat), Hashes e.worker jobs →
        (e.execute jobs (some pool) others).1 = .returned (serialDigestExecutor jobs)) ∧
    (∀ (worker : DigestWorker) (jobs : List DigestJob) (availableParallelism : Nat)
      (pool : NativeDigestPool) (others : Nat → Nat), Hashes worker jobs →
        (adaptiveExecute worker jobs availableParallelism (some pool) others).1 =
          .returned (serialDigestExecutor jobs)) ∧
    (∀ (worker : DigestWorker) (jobs : List DigestJob) (availableParallelism workerCount : Nat)
      (pool : Option NativeDigestPool) (others : Nat → Nat),
      selectAdaptiveDigestExecutionMode jobs availableParallelism = .NativeParallel workerCount →
        adaptiveExecute worker jobs availableParallelism pool others =
          (NativeParallelDigestExecutor.new workerCount worker).execute jobs pool others) ∧
    (∀ (jobs : List DigestJob) (workerCount : Nat), 0 < jobs.length → 0 < workerCount →
      0 < staticChunkSize jobs.length workerCount ∧
        (Slice.chunks (staticChunkSize jobs.length workerCount) jobs).flatten = jobs ∧
        (Slice.chunks (staticChunkSize jobs.length workerCount) jobs).length ≤ workerCount) ∧
    ∀ (e : NativeParallelDigestExecutor) (jobs : List DigestJob) (pool : NativeDigestPool)
      (others : Nat → Nat), OnPool e jobs pool →
        ((∃ job ∈ jobs, e.worker job = none) →
          (e.execute jobs (some pool) others).1 = .returned none) ∧
        (e.execute jobs (some pool) others).2 =
          some { pool with
            budget :=
              { pool.budget with
                available := others (pool.budget.available - e.requested jobs pool) +
                  e.requested jobs pool } } := by
  refine ⟨?_, ?_, ?_, ?_, ?_⟩
  · intro e jobs pool others h
    exact execute_eq_serial h pool others
  · intro worker jobs availableParallelism pool others h
    exact adaptiveExecute_eq_serial h availableParallelism pool others
  · intro worker jobs availableParallelism workerCount pool others h
    exact adaptiveExecute_native h
  · intro jobs workerCount hjobs hworkers
    exact staticChunkSize_partition hjobs hworkers
  · intro e jobs pool others h
    rw [h.execute]
    refine ⟨?_, rfl⟩
    intro hpanic
    obtain ⟨job, hjob, hnone⟩ := hpanic
    exact congrArg Execution.returned (mapM_eq_none hjob hnone)

end

/-- three jobs for two workers -/
def threeJobs : List DigestJob :=
  [⟨1, 0, 0, .SHA256, [1]⟩, ⟨1, 1, 1, .SHA384, [2]⟩, ⟨1, 2, 2, .SHA512, [3]⟩]

/-- a worker that panics on the last of them -/
def faultyWorker [Sha2] : DigestWorker := fun job =>
  if job.input = [3] then none else some (executeDigestJob job)

open scoped Reference in
theorem parallel_eq_serial_sample :
    ((NativeParallelDigestExecutor.new 2 fun job => some (executeDigestJob job)).execute threeJobs
        (some ⟨2, .new 2⟩) id).1 = .returned (serialDigestExecutor threeJobs) ∧
      (adaptiveExecute (fun job => some (executeDigestJob job)) threeJobs 4
        (some ⟨2, .new 2⟩) id).1 = .returned (serialDigestExecutor threeJobs) ∧
      0 < staticChunkSize threeJobs.length 2 ∧
      (NativeParallelDigestExecutor.new 2 faultyWorker).execute threeJobs
        (some ⟨2, .new 2⟩) id = (.returned none, some ⟨2, .new 2⟩) := by
  obtain ⟨hnative, hadaptive, -, hchunks, hpool⟩ := parallel_eq_serial
  have honPool : OnPool (.new 2 faultyWorker) threeJobs ⟨2, .new 2⟩ :=
    ⟨by decide, by decide, by decide⟩
  obtain ⟨herror, hlease⟩ := hpool _ threeJobs ⟨2, .new 2⟩ id honPool
  refine ⟨hnative _ _ _ _ fun _ _ => rfl, hadaptive _ _ _ _ _ fun _ _ => rfl,
    (hchunks threeJobs 2 (by decide) (by decide)).1, Prod.ext ?_ hlease⟩
  have hjob : (⟨1, 2, 2, .SHA512, [3]⟩ : DigestJob) ∈ threeJobs := by decide
  exact herror ⟨_, hjob, rfl⟩

end Isomdl
