import Isomdl.Issuance.Planned

/-!
# The schedule of an executor is not observable

The single path takes results in plan order when they come in plan order, and by identity
otherwise.  For every plan the issuer makes, the two ways agree on every result list, faulty
ones included, and on every permutation of it.

* `assembleReorderedDigestNamespaces_perm`   a permutation of the results changes nothing;
* `assembleOrdered_eq_reordered`             results in plan order: the same map or the same error;
* `assembleDigestNamespaces_schedule`        the two entries agree on every plan the issuer makes.
-/

namespace Isomdl

open Cbor

/-! ## the reordered path under a permutation -/

theorem collectResults_perm {results results' : List DigestResult} (hp : results.Perm results')
    (hnd : (results.map DigestResult.identity).Nodup) :
    (collectResults results).1 = (collectResults results').1 := by
  rw [collectResults_fst, collectResults_fst]
  apply BTreeMap.ofList_perm
  · rw [List.map_map]
    exact hnd
  · exact hp.map _

/-- **The reordered path does not see the order of the results.** -/
theorem assembleReorderedDigestBatches_perm (plans : List MdocDigestPlan)
    {results results' : List DigestResult} (hp : results.Perm results') :
    assembleReorderedDigestBatches plans results =
      assembleReorderedDigestBatches plans results' := by
  have hids : (results.map DigestResult.identity).Nodup ↔
      (results'.map DigestResult.identity).Nodup := (hp.map _).nodup_iff
  rw [assembleReorderedDigestBatches, assembleReorderedDigestBatches]
  cases hdup : (collectResults results).2 with
  | true =>
    have hdup' : (collectResults results').2 = true := by
      rw [← Bool.not_eq_false, collectResults_snd, ← hids, ← collectResults_snd, hdup]
      simp
    simp [hdup, hdup']
  | false =>
    have hnd := (collectResults_snd results).mp hdup
    have hdup' : (collectResults results').2 = false := (collectResults_snd _).mpr (hids.mp hnd)
    simp [hdup, hdup', collectResults_perm hp hnd]

theorem assembleReorderedDigestNamespaces_perm (plan : MdocDigestPlan)
    {results results' : List DigestResult} (hp : results.Perm results') :
    assembleReorderedDigestNamespaces plan results =
      assembleReorderedDigestNamespaces plan results' := by
  rw [assembleReorderedDigestNamespaces, assembleReorderedDigestBatches_perm [plan] hp,
    assembleReorderedDigestNamespaces]

theorem assembleReorderedDigestNamespaces_ok {plan : MdocDigestPlan} {results : List DigestResult}
    (hwf : plan.WellFormed) (hexact : ResultsExact [plan] results) :
    assembleReorderedDigestNamespaces plan results =
      .ok (plan.valueDigests (digestOf (collectResults results).1)) := by
  have h : assembleReorderedDigestBatches [plan] results =
      .ok [plan.valueDigests (digestOf (collectResults results).1)] := by
    refine assembleReorderedDigestBatches_ok.mpr ⟨by simp, ?_, hexact, rfl⟩
    simpa using hwf
  rw [assembleReorderedDigestNamespaces, h]
  rfl

/-! ## results in plan order -/

/-- what the order check compares -/
def DigestJob.key (job : DigestJob) : Identity × Nat := (job.identity, job.ordinal)
def DigestResult.key (result : DigestResult) : Identity × Nat := (result.identity, result.ordinal)

theorem resultsFollowPlanOrder_iff {plan : MdocDigestPlan} {results : List DigestResult} :
    resultsFollowPlanOrder plan results = true ↔
      results.map DigestResult.key = plan.jobs.map DigestJob.key := by
  rw [resultsFollowPlanOrder]
  generalize plan.jobs = jobs
  induction jobs generalizing results with
  | nil => cases results <;> simp
  | cons job jobs ih =>
    cases results with
    | nil => simp
    | cons r rs =>
      have hih := @ih rs
      simp only [Bool.and_eq_true, beq_iff_eq, List.all_eq_true] at hih
      simp only [List.length_cons, List.zip_cons_cons, List.all_cons, List.map_cons,
        List.cons.injEq, Bool.and_eq_true, beq_iff_eq, Nat.add_right_cancel_iff, ← hih,
        DigestResult.key, DigestJob.key, Prod.mk.injEq, List.all_eq_true]
      constructor
      · rintro ⟨hlen, ⟨hid, hord⟩, hall⟩
        exact ⟨⟨hid.symm, hord.symm⟩, hlen, hall⟩
      · rintro ⟨⟨hid, hord⟩, hlen, hall⟩
        exact ⟨hlen, ⟨hid.symm, hord.symm⟩, hall⟩

def lengthError : String := "digest executor returned an invalid digest length"

/-- every digest has the length of the plan's algorithm -/
def LengthsFit (algorithm : DigestAlgorithm) (results : List DigestResult) : Prop :=
  ∀ r ∈ results, r.digest.length = digestLength algorithm

/-! ## the ordered path -/

/-- **The ordered loop over a namespace: its digests in step, or the length error.** -/
theorem stepDigests_planned {credentialId : UInt64} {algorithm : DigestAlgorithm}
    {f : Identity → Bytes} {c : Commitment} {n ordinal : Nat} {rs : List DigestResult}
    (jobs : List DigestJob) (results : List DigestResult) (ids : DigestIds)
    (hfits : n + c.length < 2 ^ 64)
    (hkeys : rs.map DigestResult.key = (jobsFrom credentialId algorithm n ordinal c).map DigestJob.key)
    (hf : ∀ r ∈ rs, f r.identity = r.digest)
    (hnd : (c.map Prod.fst).Nodup) (hfresh : ∀ e ∈ c, e.1 ∉ ids) :
    (LengthsFit algorithm rs →
      stepDigests credentialId (digestsFrom credentialId n c)
        ⟨jobsFrom credentialId algorithm n ordinal c ++ jobs, rs ++ results, UInt64.ofNat n⟩ ids =
      .ok (⟨jobs, results, UInt64.ofNat (n + c.length)⟩,
        ids.insertMany ((digestsFrom credentialId n c).map fun d =>
          (d.digestId, (⟨f d.identity⟩ : ByteStr))))) ∧
    (¬LengthsFit algorithm rs →
      stepDigests credentialId (digestsFrom credentialId n c)
        ⟨jobsFrom credentialId algorithm n ordinal c ++ jobs, rs ++ results, UInt64.ofNat n⟩ ids =
      .error lengthError) := by
  induction c generalizing n ordinal rs ids with
  | nil =>
    obtain rfl : rs = [] := by simpa [jobsFrom] using hkeys
    refine ⟨fun _ => ?_, fun h => absurd (fun r hr => by cases hr) h⟩
    simp [stepDigests, digestsFrom, jobsFrom]
  | cons e c ih =>
    rw [jobsFrom, List.map_cons] at hkeys
    obtain ⟨r, rs, rfl, hkey, hkeys⟩ := List.map_eq_cons_iff.mp hkeys
    simp only [DigestResult.key, DigestJob.key, Prod.mk.injEq] at hkey
    obtain ⟨hid, hord⟩ := hkey
    rw [List.length_cons] at hfits
    rw [List.map_cons, List.nodup_cons] at hnd
    have hnew : e.1 ∉ ids := hfresh e List.mem_cons_self
    have hdigest : f (credentialId, UInt64.ofNat n) = r.digest := by
      rw [← hf r List.mem_cons_self, hid]
      rfl
    have hadd : (UInt64.ofNat n).checkedAdd 1 = some (UInt64.ofNat (n + 1)) := by
      rw [UInt64.checkedAdd_one, UInt64.toNat_ofNat', UInt64.toNat_ofNat',
        Nat.mod_eq_of_lt (by omega), Nat.mod_eq_of_lt (by omega)]
    have ih' := ih (n := n + 1) (ids.insert e.1 ⟨r.digest⟩) (by omega) hkeys
      (fun s hs => hf s (List.mem_cons_of_mem r hs)) hnd.2 (by
        intro e' he' hmem
        rcases BTreeMap.mem_insert.mp hmem with heq | hmem
        · exact hnd.1 (List.mem_map.mpr ⟨e', he', heq⟩)
        · exact hfresh e' (List.mem_cons_of_mem e he') hmem)
    have hstep : stepDigests credentialId (digestsFrom credentialId n (e :: c))
        ⟨jobsFrom credentialId algorithm n ordinal (e :: c) ++ jobs, (r :: rs) ++ results,
          UInt64.ofNat n⟩ ids =
        if r.digest.length = digestLength algorithm then
          stepDigests credentialId (digestsFrom credentialId (n + 1) c)
            ⟨jobsFrom credentialId algorithm (n + 1) (ordinal + 1) c ++ jobs, rs ++ results,
              UInt64.ofNat (n + 1)⟩ (ids.insert e.1 ⟨r.digest⟩)
        else .error lengthError := by
      rw [digestsFrom, jobsFrom, List.cons_append, List.cons_append, stepDigests]
      by_cases hl : r.digest.length = digestLength algorithm
      · simp [PlannedMdocDigest.identity, DigestJob.identity, hid, hord, hl, hnew, hadd]
      · simp [PlannedMdocDigest.identity, DigestJob.identity, hid, hord, hl, lengthError]
    rw [hstep]
    by_cases hl : r.digest.length = digestLength algorithm
    · rw [if_pos hl]
      refine ⟨fun hall => ?_, fun hnot => ?_⟩
      · rw [ih'.1 fun s hs => hall s (List.mem_cons_of_mem r hs), digestsFrom, List.map_cons,
          BTreeMap.insertMany_cons]
        simp only [PlannedMdocDigest.identity, hdigest, List.length_cons]
        rw [show n + 1 + c.length = n + (c.length + 1) by omega]
      · refine ih'.2 fun hall => hnot fun s hs => ?_
        rcases List.mem_cons.mp hs with rfl | hs
        · exact hl
        · exact hall s hs
    · rw [if_neg hl]
      exact ⟨fun hall => absurd (hall r List.mem_cons_self) hl, fun _ => rfl⟩

theorem stepNamespaces_planned {credentialId : UInt64} {algorithm : DigestAlgorithm}
    {f : Identity → Bytes} {cs : List (String × Commitment)} {n : Nat}
    {rs : List DigestResult} (maps : BTreeMap String DigestIds)
    (hfits : n + commitCount cs < 2 ^ 64)
    (hkeys : rs.map DigestResult.key = (allJobsFrom credentialId algorithm n cs).map DigestJob.key)
    (hf : ∀ r ∈ rs, f r.identity = r.digest)
    (hnames : (cs.map Prod.fst).Nodup) (hids : ∀ e ∈ cs, (e.2.map Prod.fst).Nodup)
    (hfresh : ∀ e ∈ cs, e.1 ∉ maps) :
    (LengthsFit algorithm rs →
      stepNamespaces credentialId (namespacesFrom credentialId n cs)
        ⟨allJobsFrom credentialId algorithm n cs, rs, UInt64.ofNat n⟩ maps =
      .ok (⟨[], [], UInt64.ofNat (n + commitCount cs)⟩,
        maps.insertMany ((namespacesFrom credentialId n cs).map fun ns =>
          (ns.name, ns.digestIds f)))) ∧
    (¬LengthsFit algorithm rs →
      stepNamespaces credentialId (namespacesFrom credentialId n cs)
        ⟨allJobsFrom credentialId algorithm n cs, rs, UInt64.ofNat n⟩ maps =
      .error lengthError) := by
  induction cs generalizing n rs maps with
  | nil =>
    obtain rfl : rs = [] := by simpa [allJobsFrom] using hkeys
    refine ⟨fun _ => ?_, fun h => absurd (fun r hr => by cases hr) h⟩
    simp [stepNamespaces, namespacesFrom, allJobsFrom, commitCount_nil]
  | cons e cs ih =>
    obtain ⟨name, c⟩ := e
    rw [allJobsFrom, List.map_append] at hkeys
    obtain ⟨rs₁, rs₂, rfl, hkeys₁, hkeys₂⟩ := List.map_eq_append_iff.mp hkeys
    rw [commitCount_cons] at hfits
    rw [List.map_cons, List.nodup_cons] at hnames
    have hname : name ∉ maps := hfresh _ List.mem_cons_self
    have hstep := stepDigests_planned (f := f)
      (allJobsFrom credentialId algorithm (n + c.length) cs) rs₂ ∅ (by simp only at hfits; omega) hkeys₁
      (fun r hr => hf r (List.mem_append_left rs₂ hr)) (hids _ List.mem_cons_self)
      (fun _ _ => Std.ExtTreeMap.not_mem_empty)
    have ih' := ih (n := n + c.length) (maps.insert name
        (PlannedMdocNamespace.digestIds ⟨name, digestsFrom credentialId n c⟩ f))
      (by simp only at hfits; omega) hkeys₂ (fun r hr => hf r (List.mem_append_right rs₁ hr))
      hnames.2 (fun e he => hids e (List.mem_cons_of_mem _ he)) (by
        intro e he hmem
        rcases BTreeMap.mem_insert.mp hmem with heq | hmem
        · exact hnames.1 (List.mem_map.mpr ⟨e, he, heq⟩)
        · exact hfresh e (List.mem_cons_of_mem _ he) hmem)
    have hfit : LengthsFit algorithm (rs₁ ++ rs₂) ↔
        LengthsFit algorithm rs₁ ∧ LengthsFit algorithm rs₂ := List.forall_mem_append
    rw [namespacesFrom, allJobsFrom, stepNamespaces, hfit]
    by_cases h₁ : LengthsFit algorithm rs₁
    · rw [hstep.1 h₁, BTreeMap.insertMany_empty]
      have hcont (e : Except String (OrderedState × BTreeMap String DigestIds))
          (he : stepNamespaces credentialId (namespacesFrom credentialId (n + c.length) cs)
            ⟨allJobsFrom credentialId algorithm (n + c.length) cs, rs₂, UInt64.ofNat (n + c.length)⟩
            (maps.insert name
              (PlannedMdocNamespace.digestIds ⟨name, digestsFrom credentialId n c⟩ f)) = e) :
          (if name ∈ maps then .error "mdoc digest plan contains a duplicate namespace"
            else stepNamespaces credentialId (namespacesFrom credentialId (n + c.length) cs)
              ⟨allJobsFrom credentialId algorithm (n + c.length) cs, rs₂,
                UInt64.ofNat (n + c.length)⟩
              (maps.insert name (Std.ExtTreeMap.ofList ((digestsFrom credentialId n c).map fun d =>
                (d.digestId, (⟨f d.identity⟩ : ByteStr))) compare))) = e := by
        rw [if_neg hname]
        exact he
      refine ⟨fun h => hcont _ ((ih'.1 h.2).trans ?_), fun h => hcont _ (ih'.2 fun h₂ => h ⟨h₁, h₂⟩)⟩
      rw [List.map_cons, BTreeMap.insertMany_cons, commitCount_cons, Nat.add_assoc]
    · rw [hstep.2 h₁]
      exact ⟨fun h => absurd h.1 h₁, fun _ => rfl⟩

/-- **The ordered path on a rendered plan: its maps, or the length error.** -/
theorem assembleOrderedDigestNamespaces_planned (credentialId : UInt64)
    (algorithm : DigestAlgorithm) {f : Identity → Bytes} {cs : List (String × Commitment)}
    {results : List DigestResult} (hcs : Plannable cs)
    (hkeys : results.map DigestResult.key =
      (planFrom credentialId algorithm cs).jobs.map DigestJob.key)
    (hf : ∀ r ∈ results, f r.identity = r.digest) :
    (LengthsFit algorithm results →
      assembleOrderedDigestNamespaces (planFrom credentialId algorithm cs) results =
        .ok ((planFrom credentialId algorithm cs).valueDigests f)) ∧
    (¬LengthsFit algorithm results →
      assembleOrderedDigestNamespaces (planFrom credentialId algorithm cs) results =
        .error lengthError) := by
  have hstep := stepNamespaces_planned (n := 0) ∅ (by simpa using hcs.fits) hkeys hf
    hcs.names_distinct hcs.ids_distinct fun _ _ => Std.ExtTreeMap.not_mem_empty
  refine ⟨fun h => ?_, fun h => ?_⟩
  · have h' := hstep.1 h
    rw [BTreeMap.insertMany_empty] at h'
    rw [assembleOrderedDigestNamespaces]
    show (stepNamespaces credentialId (namespacesFrom credentialId 0 cs)
      ⟨allJobsFrom credentialId algorithm 0 cs, results, UInt64.ofNat 0⟩ ∅ >>= _) = _
    rw [h']
    rfl
  · rw [assembleOrderedDigestNamespaces]
    show (stepNamespaces credentialId (namespacesFrom credentialId 0 cs)
      ⟨allJobsFrom credentialId algorithm 0 cs, results, UInt64.ofNat 0⟩ ∅ >>= _) = _
    rw [hstep.2 h]
    rfl

/-! ## the reordered path on results in plan order -/

/-- **A job whose result has a wrong length stops the loop over the jobs with that error, when
nothing else is wrong.** -/
theorem takeJobs_length_error {credentialId : UInt64} {jobs : List DigestJob} {st : JobState}
    (hc : ∀ job ∈ jobs, job.credentialId = credentialId)
    (hnd : (jobs.map DigestJob.identity).Nodup)
    (hfresh : ∀ job ∈ jobs, job.identity ∉ st.expectedIdentities)
    (hfound : ∀ job ∈ jobs, ∃ r, st.resultsByIdentity[job.identity]? = some r ∧
      r.ordinal = job.ordinal)
    (hbad : ∃ job ∈ jobs, ∃ r, st.resultsByIdentity[job.identity]? = some r ∧
      r.digest.length ≠ digestLength job.algorithm) :
    takeJobs credentialId jobs st = .error lengthError := by
  induction jobs generalizing st with
  | nil => simp at hbad
  | cons job jobs ih =>
    rw [List.map_cons, List.nodup_cons] at hnd
    have hne : ∀ j ∈ jobs, j.identity ≠ job.identity := fun j hj heq =>
      hnd.1 (List.mem_map.mpr ⟨j, hj, heq⟩)
    have hlook : ∀ j ∈ jobs, (st.resultsByIdentity.erase job.identity)[j.identity]? =
        st.resultsByIdentity[j.identity]? := fun j hj => by
      rw [BTreeMap.getElem?_erase, if_neg (hne j hj)]
    obtain ⟨r, hr, hord⟩ := hfound job List.mem_cons_self
    have hcred := hc job List.mem_cons_self
    have hnew := hfresh job List.mem_cons_self
    rw [takeJobs]
    by_cases hl : r.digest.length = digestLength job.algorithm
    · simp only [hcred, hnew, hr, hord, hl, ne_eq, not_true_eq_false, if_false]
      apply ih
      · exact fun j hj => hc j (List.mem_cons_of_mem job hj)
      · exact hnd.2
      · intro j hj hmem
        rcases Finset.mem_insert.mp hmem with heq | hmem
        · exact hne j hj heq
        · exact hfresh j (List.mem_cons_of_mem job hj) hmem
      · intro j hj
        dsimp only
        rw [hlook j hj]
        exact hfound j (List.mem_cons_of_mem job hj)
      · obtain ⟨j, hj, s, hs, hsl⟩ := hbad
        rcases List.mem_cons.mp hj with rfl | hj
        · rw [hr] at hs
          cases hs
          exact absurd hl hsl
        · exact ⟨j, hj, s, by dsimp only; rw [hlook j hj, hs], hsl⟩
    · simp [hcred, hnew, hr, hord, hl, lengthError]

/-- **On results in plan order both paths return the same maps or the same error.** -/
theorem assembleOrdered_eq_reordered {credentialId : UInt64} {algorithm : DigestAlgorithm}
    {cs : List (String × Commitment)} {results : List DigestResult} (hcs : Plannable cs)
    (hkeys : results.map DigestResult.key =
      (planFrom credentialId algorithm cs).jobs.map DigestJob.key) :
    assembleOrderedDigestNamespaces (planFrom credentialId algorithm cs) results =
      assembleReorderedDigestNamespaces (planFrom credentialId algorithm cs) results := by
  have hwf := planFrom_wellFormed credentialId algorithm hcs
  generalize hplan : planFrom credentialId algorithm cs = plan at hkeys hwf
  have halg : ∀ job ∈ plan.jobs, job.algorithm = algorithm := fun job hjob => by
    subst hplan
    exact (mem_allJobsFrom hjob).2
  have hids : results.map DigestResult.identity = plan.jobs.map DigestJob.identity := by
    have h := congrArg (List.map Prod.fst) hkeys
    rwa [List.map_map, List.map_map] at h
  have hnd : (results.map DigestResult.identity).Nodup := hids ▸ hwf.jobs_distinct
  have hf : ∀ r ∈ results, digestOf (collectResults results).1 r.identity = r.digest :=
    fun r hr => digestOf_of_some ((getElem?_collectResults hnd).mpr ⟨hr, rfl⟩)
  have hordered := assembleOrderedDigestNamespaces_planned credentialId
    algorithm hcs (hplan ▸ hkeys) hf
  rw [hplan] at hordered
  -- a job and its result share key and place
  have hfound : ∀ job ∈ plan.jobs, ∃ r ∈ results, r.identity = job.identity ∧
      r.ordinal = job.ordinal := by
    intro job hjob
    have hmem : job.key ∈ results.map DigestResult.key := hkeys ▸ List.mem_map.mpr ⟨job, hjob, rfl⟩
    obtain ⟨r, hr, heq⟩ := List.mem_map.mp hmem
    simp only [DigestResult.key, DigestJob.key, Prod.mk.injEq] at heq
    exact ⟨r, hr, heq⟩
  by_cases hl : LengthsFit algorithm results
  · rw [hordered.1 hl, assembleReorderedDigestNamespaces_ok hwf]
    have hr : results.map DigestResult.shape =
        (results.map DigestResult.key).map fun k => (k.1, k.2, digestLength algorithm) := by
      rw [List.map_map]
      refine List.map_congr_left fun r hr => ?_
      rw [DigestResult.shape, hl r hr]
      rfl
    have hj : (([plan].flatMap (·.jobs)).map DigestJob.shape) =
        (plan.jobs.map DigestJob.key).map fun k => (k.1, k.2, digestLength algorithm) := by
      rw [List.flatMap_singleton, List.map_map]
      refine List.map_congr_left fun job hjob => ?_
      rw [DigestJob.shape, halg job hjob]
      rfl
    rw [ResultsExact, hr, hj, hkeys]
  · rw [hordered.2 hl]
    have hbad : ∃ r ∈ results, r.digest.length ≠ digestLength algorithm := by
      simpa [LengthsFit] using hl
    obtain ⟨r, hr, hrl⟩ := hbad
    have hjobs : takeJobs plan.credentialId plan.jobs ⟨(collectResults results).1, ∅, ∅⟩ =
        .error lengthError := by
      refine takeJobs_length_error hwf.jobs_credential hwf.jobs_distinct
        (fun _ _ => Finset.notMem_empty _) (fun job hjob => ?_) ?_
      · obtain ⟨s, hs, hid, hord⟩ := hfound job hjob
        exact ⟨s, (getElem?_collectResults hnd).mpr ⟨hs, hid⟩, hord⟩
      · have hmem : r.identity ∈ plan.jobs.map DigestJob.identity :=
          hids ▸ List.mem_map.mpr ⟨r, hr, rfl⟩
        obtain ⟨job, hjob, heq⟩ := List.mem_map.mp hmem
        exact ⟨job, hjob, r, (getElem?_collectResults hnd).mpr ⟨hr, heq.symm⟩,
          halg job hjob ▸ hrl⟩
    rw [assembleReorderedDigestNamespaces, assembleReorderedDigestBatches]
    simp [(collectResults_snd results).mpr hnd, takePlans, takePlan, hjobs, bind, Except.bind]

/-! ## both entries -/

/-- the two entries of the assembly agree on a plan, for all results in all orders -/
def ScheduleIndependent (plan : MdocDigestPlan) : Prop :=
  ∀ results results' : List DigestResult, results.Perm results' →
    assembleDigestNamespaces plan results = assembleReorderedDigestNamespaces plan results'

theorem planFrom_scheduleIndependent {credentialId : UInt64} {algorithm : DigestAlgorithm}
    {cs : List (String × Commitment)} (hcs : Plannable cs) :
    ScheduleIndependent (planFrom credentialId algorithm cs) := by
  intro results results' hp
  rw [assembleDigestNamespaces, ← assembleReorderedDigestNamespaces_perm _ hp]
  by_cases h : resultsFollowPlanOrder (planFrom credentialId algorithm cs) results
  · rw [if_pos h]
    exact assembleOrdered_eq_reordered hcs (resultsFollowPlanOrder_iff.mp h)
  · rw [if_neg h]

section
variable {R : Type} [RngCore R] [Ciborium]

theorem distinctIds_of_issues {namespaces : Namespaces} {issued : IssuerNamespaces}
    (hnames : ∀ name, name ∈ issued.toMap ↔ name ∈ namespaces)
    (hissued : ∀ name elements, namespaces[name]? = some elements →
      ∃ items, issued.toMap[name]? = some items ∧ Issues (name, elements) (name, items)) :
    DistinctIds issued := by
  intro name items hitems
  have hmem : name ∈ namespaces := (hnames name).mp (BTreeMap.mem_iff_getElem?.mpr ⟨items, hitems⟩)
  obtain ⟨elements, helements⟩ := BTreeMap.mem_iff_getElem?.mp hmem
  obtain ⟨items', hitems', -, -, hnd⟩ := hissued name elements helements
  rw [hitems] at hitems'
  cases hitems'
  exact hnd

/-- **Schedule independence: whatever plan the issuer draws and plans, the in-order entry and the
reordered entry agree on every result list and every permutation of it.** -/
theorem assembleDigestNamespaces_schedule (fuel : Nat) (namespaces : Namespaces)
    (algorithm : DigestAlgorithm) (enableDecoyDigests : Bool) :
    Returns (do
        let issued ← toIssuerNamespaces fuel namespaces
        planDigestNamespaces fuel issued algorithm enableDecoyDigests : Prepare R MdocDigestPlan)
      ScheduleIndependent := by
  refine Returns.bind (toIssuerNamespaces_returns fuel namespaces) ?_
  rintro issued ⟨hnames, hissued⟩
  refine (planDigestNamespacesForCredential_returns fuel _ _ _ _).mono ?_
  rintro plan ⟨cs, hcs, hfits, rfl⟩
  exact planFrom_scheduleIndependent
    (CommitsEntry.plannable (distinctIds_of_issues hnames hissued) hcs hfits)

end

end Isomdl
