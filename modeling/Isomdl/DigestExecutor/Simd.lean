import Isomdl.Reference
import Isomdl.SimdSha256
import Mathlib.Data.List.FinRange

/-!
# The SIMD executor (`digest_executor.rs`)

SHA-256 jobs are grouped by their block count.  Each group is hashed eight jobs at a time, what is
left of it by the scalar code, and every result is written to the place of its job.  The other
algorithms go to the scalar code at once.  Targets without the lane code run serially.

* `groupJobs_spec`      the groups hold every SHA-256 job, under its block count;
* `runGroup_spec`       a group writes the results of its jobs and no wrong one;
* `simd_eq_serial`      the executor returns what the serial one returns.
-/

namespace Isomdl

open SimdSha256 (sha256BlockCount hashManySameBlockCount)

/-- the targets that the build distinguishes -/
inductive TargetArch where
  | x86_64
  | aarch64
  | other
  deriving DecidableEq, Repr

/-- `digest_result` -/
def digestResult (j : DigestJob) (digest : Bytes) : DigestResult :=
  ⟨j.credentialId, j.jobId, j.ordinal, digest⟩

/-- the groups of indices, by block count -/
abbrev Sha256Groups (n : Nat) := BTreeMap Nat (List (Fin n))

/-- a result for every job that has one -/
abbrev Results (n : Nat) := Vector (Option DigestResult) n

section
variable [Sha2]

/-- one turn of the grouping loop -/
def groupJob (jobs : List DigestJob) (s : Results jobs.length × Sha256Groups jobs.length)
    (index : Fin jobs.length) : Results jobs.length × Sha256Groups jobs.length :=
  let job := jobs[index]
  if job.algorithm = .SHA256 then
    let count := sha256BlockCount job.input.length
    (s.1, s.2.insert count (s.2.getD count [] ++ [index]))
  else (s.1.set index.val (some (executeDigestJob job)), s.2)

def groupJobs (jobs : List DigestJob) : Results jobs.length × Sha256Groups jobs.length :=
  (List.finRange jobs.length).foldl (groupJob jobs) (Vector.replicate jobs.length none, ∅)

/-- the jobs of a group that fill the lanes -/
def runLanes (jobs : List DigestJob) (results : Results jobs.length)
    (simd : List (Fin jobs.length)) : Option (Results jobs.length) :=
  let inputs := simd.map fun index => jobs[index].input
  match hashManySameBlockCount inputs (List.replicate simd.length (List.replicate 32 0)) with
  | (false, _) => none
  | (true, digests) => some ((simd.zip digests).foldl
      (fun results p => results.set p.1.val (some (digestResult jobs[p.1] p.2))) results)

/-- one turn of the loop over the groups -/
def runGroup (jobs : List DigestJob) (results : Results jobs.length)
    (indices : List (Fin jobs.length)) : Option (Results jobs.length) := do
  let simdJobCount := indices.length / SimdSha256.LANES * SimdSha256.LANES
  let results ← (if simdJobCount ≠ 0 then runLanes jobs results (indices.take simdJobCount)
    else some results)
  some ((indices.drop simdJobCount).foldl
    (fun results index => results.set index.val (some (executeDigestJob jobs[index]))) results)

/-- `execute_simd_digest_jobs` -/
def executeSimdDigestJobs : DigestExecutor := fun jobs => do
  let (results, groups) := groupJobs jobs
  let results ← (groups.toList.map Prod.snd).foldlM (runGroup jobs) results
  results.toList.mapM id

/-- `SimdDigestExecutor` on a target -/
def simdDigestExecutor : TargetArch → DigestExecutor
  | .x86_64 => executeSimdDigestJobs
  | .aarch64 => executeSimdDigestJobs
  | .other => serialDigestExecutor

end

/-- the `sha2` crate computes the secure hash algorithms -/
class LawfulSha2 [Sha2] : Prop where
  sha256_eq : ∀ input, (Sha2.sha256 input).val = SecureHash.sha256 input
  sha384_eq : ∀ input, (Sha2.sha384 input).val = SecureHash.sha384 input
  sha512_eq : ∀ input, (Sha2.sha512 input).val = SecureHash.sha512 input

namespace Reference

scoped instance lawfulSha2 : LawfulSha2 where
  sha256_eq _ := rfl
  sha384_eq _ := rfl
  sha512_eq _ := rfl

end Reference

/-! ## results -/

namespace Results

section
variable [Sha2] {jobs : List DigestJob}

/-- the job has its result -/
def Filled (results : Results jobs.length) (index : Fin jobs.length) : Prop :=
  results[index.val] = some (executeDigestJob jobs[index])

/-- what has its result in `results` has it in `after` -/
def Keeps (results after : Results jobs.length) : Prop :=
  ∀ index, Filled results index → Filled after index

theorem filled_set {results : Results jobs.length} {index written : Fin jobs.length}
    (h : index = written ∨ Filled results index) :
    Filled (results.set written.val (some (executeDigestJob jobs[written]))) index := by
  unfold Filled at h ⊢
  rw [Vector.getElem_set]
  split
  · next heq => rw [Fin.ext heq]
  · next hne =>
    have hother : ¬index = written := fun heq => hne (by rw [heq])
    exact h.resolve_left hother

/-- **A loop that writes right results** keeps what is there and fills what it visits. -/
theorem foldl_set {α : Type} (index : α → Fin jobs.length) (value : α → DigestResult) {l : List α}
    (h : ∀ a ∈ l, value a = executeDigestJob jobs[index a]) (results : Results jobs.length) :
    let after := l.foldl (fun r a => r.set (index a).val (some (value a))) results
    Keeps results after ∧ ∀ a ∈ l, Filled after (index a) := by
  induction l generalizing results with
  | nil => exact ⟨fun _ h => h, fun _ ha => absurd ha List.not_mem_nil⟩
  | cons a l ih =>
    rw [List.foldl_cons, h a List.mem_cons_self]
    obtain ⟨hkeeps, hfilled⟩ := ih (fun b hb => h b (List.mem_cons_of_mem _ hb))
      (results.set (index a).val (some (executeDigestJob jobs[index a])))
    refine ⟨fun i hi => hkeeps i (filled_set (.inr hi)), ?_⟩
    intro b hb
    rcases List.mem_cons.mp hb with rfl | hb
    · exact hkeeps _ (filled_set (.inl rfl))
    · exact hfilled b hb

/-- when every job has its result, the results are the oracle's -/
theorem mapM_of_filled {results : Results jobs.length} (h : ∀ index, Filled results index) :
    results.toList.mapM id = serialDigestExecutor jobs := by
  have hresults : results.toList = (jobs.map executeDigestJob).map some := by
    apply List.ext_getElem
    · rw [Vector.length_toList, List.length_map, List.length_map]
    · intro k hk _
      rw [Vector.length_toList] at hk
      rw [Vector.getElem_toList, List.getElem_map, List.getElem_map]
      exact h ⟨k, hk⟩
  rw [hresults, List.mapM_map]
  show (jobs.map executeDigestJob).mapM (fun r => (pure r : Option DigestResult)) = _
  rw [List.mapM_pure, List.map_id']
  rfl

end

end Results

open Results

/-! ## groups -/

section
variable [Sha2] {jobs : List DigestJob}

/-- the jobs of a group are SHA-256 jobs of its block count -/
def Grouped (count : Nat) (indices : List (Fin jobs.length)) : Prop :=
  ∀ index ∈ indices, jobs[index].algorithm = .SHA256 ∧
    sha256BlockCount jobs[index].input.length = count

/-- the job has its result, or is in a group -/
def Planned (s : Results jobs.length × Sha256Groups jobs.length) (index : Fin jobs.length) : Prop :=
  Filled s.1 index ∨
    ∃ (count : Nat) (indices : List (Fin jobs.length)), s.2[count]? = some indices ∧ index ∈ indices

/-- every group holds jobs of its block count only -/
def WellGrouped (s : Results jobs.length × Sha256Groups jobs.length) : Prop :=
  ∀ (count : Nat) (indices : List (Fin jobs.length)),
    s.2[count]? = some indices → Grouped count indices

theorem groupJob_of_sha256 {s : Results jobs.length × Sha256Groups jobs.length}
    {index : Fin jobs.length} (h : jobs[index].algorithm = .SHA256) :
    groupJob jobs s index = (s.1, s.2.insert (sha256BlockCount jobs[index].input.length)
      (s.2.getD (sha256BlockCount jobs[index].input.length) [] ++ [index])) := if_pos h

theorem groupJob_of_other {s : Results jobs.length × Sha256Groups jobs.length}
    {index : Fin jobs.length} (h : jobs[index].algorithm ≠ .SHA256) :
    groupJob jobs s index = (s.1.set index.val (some (executeDigestJob jobs[index])), s.2) :=
  if_neg h

theorem wellGrouped_groupJob {s : Results jobs.length × Sha256Groups jobs.length}
    (h : WellGrouped s) (index : Fin jobs.length) : WellGrouped (groupJob jobs s index) := by
  by_cases halgorithm : jobs[index].algorithm = .SHA256
  · rw [groupJob_of_sha256 halgorithm]
    intro count indices hget
    rw [BTreeMap.getElem?_insert] at hget
    split at hget
    · next hcount =>
      cases hget
      intro i hi
      rcases List.mem_append.mp hi with hi | hi
      · rw [Std.ExtTreeMap.getD_eq_getD_getElem?] at hi
        cases hold : s.2[count]? with
        | none =>
          rw [← hcount, hold] at hi
          exact absurd hi List.not_mem_nil
        | some old =>
          rw [← hcount, hold] at hi
          exact h count old hold i hi
      · rw [List.mem_singleton.mp hi]
        exact ⟨halgorithm, hcount.symm⟩
    · exact h count indices hget
  · rw [groupJob_of_other halgorithm]
    exact h

theorem planned_groupJob {s : Results jobs.length × Sha256Groups jobs.length}
    {index i : Fin jobs.length} (h : i = index ∨ Planned s i) :
    Planned (groupJob jobs s index) i := by
  by_cases halgorithm : jobs[index].algorithm = .SHA256
  · rw [groupJob_of_sha256 halgorithm]
    have hcount (a : Nat) := BTreeMap.getElem?_insert (m := s.2) (a := a)
      (k := sha256BlockCount jobs[index].input.length)
      (v := s.2.getD (sha256BlockCount jobs[index].input.length) [] ++ [index])
    rcases h with rfl | hfilled | ⟨count, indices, hget, hi⟩
    · exact .inr ⟨_, _, (hcount _).trans (if_pos rfl),
        List.mem_append_right _ (List.mem_singleton_self i)⟩
    · exact .inl hfilled
    · by_cases heq : count = sha256BlockCount jobs[index].input.length
      · refine .inr ⟨count, _, (hcount count).trans (if_pos heq), ?_⟩
        rw [← heq, Std.ExtTreeMap.getD_eq_getD_getElem?, hget]
        exact List.mem_append_left _ hi
      · exact .inr ⟨count, indices, ((hcount count).trans (if_neg heq)).trans hget, hi⟩
  · rw [groupJob_of_other halgorithm]
    rcases h with rfl | hfilled | hgroup
    · exact .inl (filled_set (.inl rfl))
    · exact .inl (filled_set (.inr hfilled))
    · exact .inr hgroup

/-- **The groups hold every job that has no result yet**, under its block count. -/
theorem groupJobs_spec (jobs : List DigestJob) :
    WellGrouped (groupJobs jobs) ∧ ∀ index, Planned (groupJobs jobs) index := by
  have hrun (l : List (Fin jobs.length)) (s : Results jobs.length × Sha256Groups jobs.length)
      (hs : WellGrouped s) : WellGrouped (l.foldl (groupJob jobs) s) ∧
        ∀ index, index ∈ l ∨ Planned s index → Planned (l.foldl (groupJob jobs) s) index := by
    induction l generalizing s with
    | nil => exact ⟨hs, fun index h => h.resolve_left List.not_mem_nil⟩
    | cons index l ih =>
      rw [List.foldl_cons]
      obtain ⟨hgrouped, hplanned⟩ := ih _ (wellGrouped_groupJob hs index)
      refine ⟨hgrouped, ?_⟩
      intro i hi
      apply hplanned
      rcases hi with hi | hi
      · rcases List.mem_cons.mp hi with rfl | hi
        · exact .inr (planned_groupJob (.inl rfl))
        · exact .inl hi
      · exact .inr (planned_groupJob (.inr hi))
  have hempty : WellGrouped ((Vector.replicate jobs.length none, ∅) :
      Results jobs.length × Sha256Groups jobs.length) := by
    intro count indices hget
    rw [Std.ExtTreeMap.getElem?_empty] at hget
    cases hget
  obtain ⟨hgrouped, hplanned⟩ := hrun (List.finRange jobs.length) _ hempty
  exact ⟨hgrouped, fun index => hplanned index (.inl (List.mem_finRange index))⟩

end

section
variable [Sha2] [LawfulSha2] {jobs : List DigestJob}

/-- a digest of the lane code is the digest of the job -/
theorem digestResult_sha256 {index : Fin jobs.length} (h : jobs[index].algorithm = .SHA256) :
    digestResult jobs[index] (SecureHash.sha256 jobs[index].input) =
      executeDigestJob jobs[index] := by
  unfold digestResult executeDigestJob hash
  rw [h, ← LawfulSha2.sha256_eq]

theorem runLanes_spec {count : Nat} {simd : List (Fin jobs.length)} (h : Grouped count simd)
    (hlanes : SimdSha256.LANES ∣ simd.length) (results : Results jobs.length) :
    ∃ after, runLanes jobs results simd = some after ∧ Keeps results after ∧
      ∀ index ∈ simd, Filled after index := by
  let inputs := simd.map fun index => jobs[index].input
  have hinputs : inputs.length = simd.length := List.length_map _
  have hcount : ∀ input ∈ inputs, sha256BlockCount input.length = count := by
    intro input hinput
    obtain ⟨index, hindex, rfl⟩ := List.mem_map.mp hinput
    exact (h index hindex).2
  have hhash : hashManySameBlockCount inputs
      (List.replicate simd.length (List.replicate 32 0)) = (true, inputs.map SecureHash.sha256) :=
    SimdSha256.hashManySameBlockCount_eq (hinputs.trans List.length_replicate.symm)
      (hinputs.symm ▸ hlanes) hcount
  -- every index is paired with the digest of its own job
  have hpairs : simd.zip (inputs.map SecureHash.sha256) =
      simd.map fun index => (index, SecureHash.sha256 jobs[index].input) := by
    have hzip := List.zip_map' (f := id) (g := fun index => SecureHash.sha256 jobs[index].input)
      (l := simd)
    rw [List.map_id] at hzip
    rw [List.map_map]
    exact hzip
  obtain ⟨hkeeps, hfilled⟩ := foldl_set Prod.fst (fun p => digestResult jobs[p.1] p.2)
    (l := simd.zip (inputs.map SecureHash.sha256)) (by
      intro p hp
      rw [hpairs] at hp
      obtain ⟨index, hindex, rfl⟩ := List.mem_map.mp hp
      exact digestResult_sha256 (h index hindex).1) results
  refine ⟨_, ?_, hkeeps, ?_⟩
  · unfold runLanes
    dsimp only
    rw [hhash]
  · intro index hindex
    refine hfilled (index, SecureHash.sha256 jobs[index].input) ?_
    rw [hpairs]
    exact List.mem_map_of_mem hindex

/-- **A group writes the results of its jobs and no wrong one.** -/
theorem runGroup_spec {count : Nat} {indices : List (Fin jobs.length)} (h : Grouped count indices)
    (results : Results jobs.length) :
    ∃ after, runGroup jobs results indices = some after ∧ Keeps results after ∧
      ∀ index ∈ indices, Filled after index := by
  unfold runGroup
  generalize hcount : indices.length / SimdSha256.LANES * SimdSha256.LANES = simdJobCount
  have hlength : (indices.take simdJobCount).length = simdJobCount :=
    List.length_take_of_le (hcount ▸ Nat.div_mul_le_self _ _)
  have hsimd : ∃ middle, (if simdJobCount ≠ 0 then
      runLanes jobs results (indices.take simdJobCount) else some results) = some middle ∧
      Keeps results middle ∧ ∀ index ∈ indices.take simdJobCount, Filled middle index := by
    split
    · refine runLanes_spec (fun index hi => h index (List.mem_of_mem_take hi)) ?_ results
      rw [hlength, ← hcount]
      exact Nat.dvd_mul_left _ _
    · next hzero =>
      refine ⟨results, rfl, fun _ h => h, ?_⟩
      intro index hindex
      rw [not_not.mp hzero] at hindex
      exact absurd hindex List.not_mem_nil
  obtain ⟨middle, hmiddle, hkeeps, hfilled⟩ := hsimd
  obtain ⟨hkeeps', hfilled'⟩ := foldl_set id (fun index => executeDigestJob jobs[index])
    (l := indices.drop simdJobCount) (fun _ _ => rfl) middle
  refine ⟨_, ?_, fun index hi => hkeeps' index (hkeeps index hi), ?_⟩
  · dsimp only
    rw [hmiddle]
    rfl
  · intro index hindex
    rw [← List.take_append_drop simdJobCount indices] at hindex
    rcases List.mem_append.mp hindex with hi | hi
    · exact hkeeps' index (hfilled index hi)
    · exact hfilled' index hi

theorem runGroups_spec {groups : List (List (Fin jobs.length))} (results : Results jobs.length)
    (h : ∀ indices ∈ groups, ∃ count, Grouped count indices) :
    ∃ after, groups.foldlM (runGroup jobs) results = some after ∧ Keeps results after ∧
      ∀ indices ∈ groups, ∀ index ∈ indices, Filled after index := by
  induction groups generalizing results with
  | nil => exact ⟨results, rfl, fun _ h => h, fun _ h => absurd h List.not_mem_nil⟩
  | cons indices groups ih =>
    obtain ⟨count, hcount⟩ := h indices List.mem_cons_self
    obtain ⟨middle, hmiddle, hkeeps, hfilled⟩ := runGroup_spec hcount results
    obtain ⟨after, hafter, hkeeps', hfilled'⟩ :=
      ih middle fun indices hi => h indices (List.mem_cons_of_mem _ hi)
    refine ⟨after, ?_, fun index h => hkeeps' index (hkeeps index h), ?_⟩
    · rw [List.foldlM_cons, hmiddle]
      exact hafter
    · intro group hgroup index hindex
      rcases List.mem_cons.mp hgroup with rfl | hgroup
      · exact hkeeps' index (hfilled index hindex)
      · exact hfilled' group hgroup index hindex

theorem executeSimdDigestJobs_eq (jobs : List DigestJob) :
    executeSimdDigestJobs jobs = serialDigestExecutor jobs := by
  obtain ⟨hgrouped, hplanned⟩ := groupJobs_spec jobs
  have hgroups : ∀ indices ∈ (groupJobs jobs).2.toList.map Prod.snd,
      ∃ count, Grouped count indices := by
    intro indices hindices
    obtain ⟨⟨count, _⟩, hmem, rfl⟩ := List.mem_map.mp hindices
    exact ⟨count, hgrouped count _ (BTreeMap.mem_toList.mp hmem)⟩
  obtain ⟨after, hafter, hkeeps, hfilled⟩ := runGroups_spec (groupJobs jobs).1 hgroups
  have hall (index : Fin jobs.length) : Filled after index := by
    rcases hplanned index with h | ⟨count, indices, hget, hindex⟩
    · exact hkeeps index h
    · exact hfilled indices (List.mem_map.mpr ⟨(count, indices), BTreeMap.mem_toList.mpr hget, rfl⟩)
        index hindex
  rw [← mapM_of_filled hall]
  show ((groupJobs jobs).2.toList.map Prod.snd).foldlM (runGroup jobs) (groupJobs jobs).1 >>=
    (fun results => results.toList.mapM id) = _
  rw [hafter]
  rfl

theorem simdDigestExecutor_eq (target : TargetArch) (jobs : List DigestJob) :
    simdDigestExecutor target jobs = serialDigestExecutor jobs := by
  cases target with
  | x86_64 => exact executeSimdDigestJobs_eq jobs
  | aarch64 => exact executeSimdDigestJobs_eq jobs
  | other => rfl

/-- **The SIMD executor returns what the serial one returns**; a SHA-256 job gets the digest of its
own message. -/
theorem simd_eq_serial (target : TargetArch) (jobs : List DigestJob) :
    simdDigestExecutor target jobs = serialDigestExecutor jobs ∧
      ∀ results, simdDigestExecutor target jobs = some results →
        ∀ index : Fin jobs.length, jobs[index].algorithm = .SHA256 →
          results[index.val]? =
            some (digestResult jobs[index] (SecureHash.sha256 jobs[index].input)) := by
  refine ⟨simdDigestExecutor_eq target jobs, ?_⟩
  intro results hresults index halgorithm
  rw [simdDigestExecutor_eq] at hresults
  cases hresults
  rw [List.getElem?_map, List.getElem?_eq_getElem index.isLt, digestResult_sha256 halgorithm]
  rfl

end

/-- one job of another algorithm, one alone with its block count, and nine that share one -/
def sampleJobs : List DigestJob :=
  [⟨1, 0, 0, .SHA256, [1]⟩, ⟨1, 1, 1, .SHA384, [2]⟩, ⟨1, 2, 2, .SHA256, List.replicate 56 3⟩] ++
    (List.range 8).map fun i => ⟨2, i.toUInt64, i, .SHA256, List.replicate i 7⟩

open Reference in
theorem simd_eq_serial_sample :
    simdDigestExecutor .x86_64 sampleJobs = serialDigestExecutor sampleJobs :=
  (simd_eq_serial .x86_64 sampleJobs).1

end Isomdl
