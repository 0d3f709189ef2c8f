import Isomdl.Issuance.Assemble

/-!
# The reordered assembly accepts exactly the matching results

A plan is `WellFormed` when its identities are consistent and each of its jobs is referenced
once; results are `ResultsExact` for a list of plans when they are, in any order, one result
for each job with its identity, ordinal and digest length.

* `takeJobs_ok`, `takeDigests_ok`, `takeNamespaces_ok`, `takePlan_ok`, `takePlans_ok`
                                   what each loop accepts and what it leaves behind;
* `assembleReorderedDigestBatches_ok`   the maps are `valueDigests` of the plans;
* `assembleReorderedDigestBatches_exact`  acceptance and lookups, in the terms of the plan.
-/

namespace Isomdl

/-! ## well-formed plans -/

/-- all planned digests of a plan, namespace after namespace -/
def MdocDigestPlan.digests (plan : MdocDigestPlan) : List PlannedMdocDigest :=
  plan.namespaces.flatMap (·.digests)

structure MdocDigestPlan.WellFormed (plan : MdocDigestPlan) : Prop where
  jobs_credential : ∀ job ∈ plan.jobs, job.credentialId = plan.credentialId
  digests_credential : ∀ d ∈ plan.digests, d.credentialId = plan.credentialId
  jobs_distinct : (plan.jobs.map DigestJob.identity).Nodup
  jobs_referenced_once :
    (plan.digests.map PlannedMdocDigest.identity).Perm (plan.jobs.map DigestJob.identity)
  names_distinct : (plan.namespaces.map PlannedMdocNamespace.name).Nodup
  ids_distinct : ∀ ns ∈ plan.namespaces, (ns.digests.map PlannedMdocDigest.digestId).Nodup

/-- what a job asks of its result: identity, ordinal and digest length -/
def DigestJob.shape (job : DigestJob) : Identity × Nat × Nat :=
  (job.identity, job.ordinal, digestLength job.algorithm)

def DigestResult.shape (result : DigestResult) : Identity × Nat × Nat :=
  (result.identity, result.ordinal, result.digest.length)

/-- one result for each job of the plans, and no other -/
def ResultsExact (plans : List MdocDigestPlan) (results : List DigestResult) : Prop :=
  (results.map DigestResult.shape).Perm ((plans.flatMap (·.jobs)).map DigestJob.shape)

/-! ## the maps of a plan -/

/-- the digests of a namespace under their ids, looked up by identity -/
def PlannedMdocNamespace.digestIds (ns : PlannedMdocNamespace) (digestOf : Identity → Bytes) :
    DigestIds :=
  Std.ExtTreeMap.ofList (ns.digests.map fun d => (d.digestId, ⟨digestOf d.identity⟩)) compare

def MdocDigestPlan.valueDigests (plan : MdocDigestPlan) (digestOf : Identity → Bytes) :
    BTreeMap String DigestIds :=
  Std.ExtTreeMap.ofList (plan.namespaces.map fun ns => (ns.name, ns.digestIds digestOf)) compare

theorem PlannedMdocNamespace.digestIds_congr {ns : PlannedMdocNamespace} {f g : Identity → Bytes}
    (h : ∀ d ∈ ns.digests, f d.identity = g d.identity) : ns.digestIds f = ns.digestIds g := by
  rw [digestIds, digestIds, List.map_congr_left]
  intro d hd
  rw [h d hd]

theorem MdocDigestPlan.valueDigests_congr {plan : MdocDigestPlan} {f g : Identity → Bytes}
    (h : ∀ d ∈ plan.digests, f d.identity = g d.identity) :
    plan.valueDigests f = plan.valueDigests g := by
  rw [valueDigests, valueDigests, List.map_congr_left]
  intro ns hns
  rw [PlannedMdocNamespace.digestIds_congr]
  intro d hd
  exact h d (List.mem_flatMap.mpr ⟨ns, hns, hd⟩)

/-- the digest of the result with an identity -/
def digestOf (resultsByIdentity : BTreeMap Identity DigestResult) (identity : Identity) : Bytes :=
  (resultsByIdentity[identity]?.map DigestResult.digest).getD []

/-- what a result must satisfy beside its identity -/
def Fits (job : DigestJob) (result : DigestResult) : Prop :=
  result.ordinal = job.ordinal ∧ result.digest.length = digestLength job.algorithm

theorem digestOf_of_some {m : BTreeMap Identity DigestResult} {k : Identity} {r : DigestResult}
    (h : m[k]? = some r) : digestOf m k = r.digest := by
  rw [digestOf, h]
  rfl

theorem digestOf_eraseMany {m : BTreeMap Identity DigestResult} {ks : List Identity} {a : Identity}
    (h : a ∉ ks) : digestOf (BTreeMap.eraseMany m ks) a = digestOf m a := by
  rw [digestOf, BTreeMap.getElem?_eraseMany, if_neg h, digestOf]

theorem digestOf_erase {m : BTreeMap Identity DigestResult} {k a : Identity} (h : a ≠ k) :
    digestOf (m.erase k) a = digestOf m a := by
  rw [digestOf, BTreeMap.getElem?_erase, if_neg h, digestOf]

/-! ## the loop over the jobs -/

/-- one turn of the loop goes through -/
def JobState.Accepts (st : JobState) (credentialId : UInt64) (job : DigestJob) : Prop :=
  job.credentialId = credentialId ∧ job.identity ∉ st.expectedIdentities ∧
    ∃ result, st.resultsByIdentity[job.identity]? = some result ∧ Fits job result

def JobState.take (st : JobState) (job : DigestJob) : JobState where
  resultsByIdentity := st.resultsByIdentity.erase job.identity
  expectedIdentities := insert job.identity st.expectedIdentities
  digestsByIdentity :=
    st.digestsByIdentity.insert job.identity (digestOf st.resultsByIdentity job.identity)

theorem takeJobs_cons_ok {credentialId : UInt64} {job : DigestJob} {jobs : List DigestJob}
    {st st' : JobState} :
    takeJobs credentialId (job :: jobs) st = .ok st' ↔
      st.Accepts credentialId job ∧ takeJobs credentialId jobs (st.take job) = .ok st' := by
  rw [takeJobs]
  by_cases hc : job.credentialId = credentialId
  swap
  · simp [JobState.Accepts, hc]
  by_cases he : job.identity ∈ st.expectedIdentities
  · simp [JobState.Accepts, hc, he]
  cases hr : st.resultsByIdentity[job.identity]? with
  | none => simp [JobState.Accepts, hc, he, hr]
  | some result =>
    by_cases ho : result.ordinal = job.ordinal
    swap
    · simp [JobState.Accepts, Fits, hc, he, hr, ho]
    by_cases hl : result.digest.length = digestLength job.algorithm
    swap
    · simp [JobState.Accepts, Fits, hc, he, hr, ho, hl]
    simp [JobState.Accepts, JobState.take, Fits, hc, he, hr, ho, hl, digestOf_of_some hr]

/-- **The loop over the jobs: consistent, distinct, and each with its result.** -/
theorem takeJobs_ok {credentialId : UInt64} {jobs : List DigestJob} {st st' : JobState} :
    takeJobs credentialId jobs st = .ok st' ↔
      (∀ job ∈ jobs, job.credentialId = credentialId) ∧
      (jobs.map DigestJob.identity).Nodup ∧
      (∀ job ∈ jobs, job.identity ∉ st.expectedIdentities) ∧
      (∀ job ∈ jobs, ∃ result, st.resultsByIdentity[job.identity]? = some result ∧ Fits job result) ∧
      st' = ⟨BTreeMap.eraseMany st.resultsByIdentity (jobs.map DigestJob.identity),
        (jobs.map DigestJob.identity).foldl (fun s k => insert k s) st.expectedIdentities,
        st.digestsByIdentity.insertMany
          (jobs.map fun job => (job.identity, digestOf st.resultsByIdentity job.identity))⟩ := by
  induction jobs generalizing st with
  | nil => simp [takeJobs, BTreeMap.eraseMany_nil, eq_comm]
  | cons job jobs ih =>
    have hmap (hne : ∀ j ∈ jobs, j.identity ≠ job.identity) :
        (jobs.map fun j => (j.identity, digestOf (st.take job).resultsByIdentity j.identity)) =
          jobs.map fun j => (j.identity, digestOf st.resultsByIdentity j.identity) := by
      refine List.map_congr_left fun j hj => ?_
      rw [JobState.take, digestOf_erase (hne j hj)]
    have hlook {j : DigestJob} (hne : j.identity ≠ job.identity) :
        (st.take job).resultsByIdentity[j.identity]? = st.resultsByIdentity[j.identity]? := by
      rw [JobState.take, BTreeMap.getElem?_erase, if_neg hne]
    rw [takeJobs_cons_ok, ih]
    simp only [List.map_cons, List.nodup_cons, List.forall_mem_cons, List.mem_map]
    constructor
    · rintro ⟨⟨hc, he, hr⟩, hcs, hnd, hes, hrs, rfl⟩
      have hne : ∀ j ∈ jobs, j.identity ≠ job.identity := fun j hj heq =>
        hes j hj (Finset.mem_insert.mpr (Or.inl heq))
      refine ⟨⟨hc, hcs⟩, ⟨?_, hnd⟩, ⟨he, fun j hj h => ?_⟩, ⟨hr, ?_⟩, ?_⟩
      · rintro ⟨j, hj, heq⟩
        exact hne j hj heq
      · exact hes j hj (Finset.mem_insert_of_mem h)
      · intro j hj
        rw [← hlook (hne j hj)]
        exact hrs j hj
      · rw [hmap hne, BTreeMap.insertMany_cons]
        rfl
    · rintro ⟨⟨hc, hcs⟩, ⟨hnot, hnd⟩, ⟨he, hes⟩, ⟨hr, hrs⟩, rfl⟩
      have hne : ∀ j ∈ jobs, j.identity ≠ job.identity := fun j hj heq => hnot ⟨j, hj, heq⟩
      refine ⟨⟨hc, he, hr⟩, hcs, hnd, fun j hj h => ?_, ?_, ?_⟩
      · rcases Finset.mem_insert.mp h with heq | h
        · exact hne j hj heq
        · exact hes j hj h
      · intro j hj
        rw [hlook (hne j hj)]
        exact hrs j hj
      · rw [hmap hne, BTreeMap.insertMany_cons]
        rfl

/-! ## the loops over the planned digests -/

/-- the digest held for an identity -/
def heldDigest (digestsByIdentity : BTreeMap Identity Bytes) (identity : Identity) : Bytes :=
  (digestsByIdentity[identity]?).getD []

theorem heldDigest_of_some {m : BTreeMap Identity Bytes} {k : Identity} {b : Bytes}
    (h : m[k]? = some b) : heldDigest m k = b := by
  rw [heldDigest, h]
  rfl

theorem heldDigest_eraseMany {m : BTreeMap Identity Bytes} {ks : List Identity} {a : Identity}
    (h : a ∉ ks) : heldDigest (BTreeMap.eraseMany m ks) a = heldDigest m a := by
  rw [heldDigest, BTreeMap.getElem?_eraseMany, if_neg h, heldDigest]

theorem heldDigest_erase {m : BTreeMap Identity Bytes} {k a : Identity} (h : a ≠ k) :
    heldDigest (m.erase k) a = heldDigest m a := by
  rw [heldDigest, BTreeMap.getElem?_erase, if_neg h, heldDigest]

theorem takeDigests_cons_ok {credentialId : UInt64} {d : PlannedMdocDigest}
    {ds : List PlannedMdocDigest} {m m' : BTreeMap Identity Bytes} {ids ids' : DigestIds} :
    takeDigests credentialId (d :: ds) m ids = .ok (m', ids') ↔
      (d.credentialId = credentialId ∧ d.identity ∈ m ∧ d.digestId ∉ ids) ∧
      takeDigests credentialId ds (m.erase d.identity)
        (ids.insert d.digestId ⟨heldDigest m d.identity⟩) = .ok (m', ids') := by
  rw [takeDigests]
  by_cases hc : d.credentialId = credentialId
  swap
  · simp [hc]
  cases hm : m[d.identity]? with
  | none =>
    have hnot : d.identity ∉ m := BTreeMap.getElem?_eq_none_iff.mp hm
    simp [hc, hnot]
  | some digest =>
    have hmem : d.identity ∈ m := BTreeMap.mem_iff_getElem?.mpr ⟨digest, hm⟩
    by_cases hd : d.digestId ∈ ids
    · simp [hc, hd]
    · simp [hc, hmem, hd, heldDigest_of_some hm]

/-- **The loop over the digests of a namespace: every identity is held, every id is new.** -/
theorem takeDigests_ok {credentialId : UInt64} {ds : List PlannedMdocDigest}
    {m m' : BTreeMap Identity Bytes} {ids ids' : DigestIds} :
    takeDigests credentialId ds m ids = .ok (m', ids') ↔
      (∀ d ∈ ds, d.credentialId = credentialId) ∧
      (ds.map PlannedMdocDigest.identity).Nodup ∧
      (∀ d ∈ ds, d.identity ∈ m) ∧
      (ds.map PlannedMdocDigest.digestId).Nodup ∧
      (∀ d ∈ ds, d.digestId ∉ ids) ∧
      m' = BTreeMap.eraseMany m (ds.map PlannedMdocDigest.identity) ∧
      ids' = ids.insertMany (ds.map fun d => (d.digestId, (⟨heldDigest m d.identity⟩ : ByteStr))) := by
  induction ds generalizing m ids with
  | nil => simp [takeDigests, BTreeMap.eraseMany_nil, eq_comm]
  | cons d ds ih =>
    have hmap (hne : ∀ e ∈ ds, e.identity ≠ d.identity) :
        (ds.map fun e => (e.digestId, (⟨heldDigest (m.erase d.identity) e.identity⟩ : ByteStr))) =
          ds.map fun e => (e.digestId, ⟨heldDigest m e.identity⟩) := by
      refine List.map_congr_left fun e he => ?_
      rw [heldDigest_erase (hne e he)]
    rw [takeDigests_cons_ok, ih]
    simp only [List.map_cons, List.nodup_cons, List.forall_mem_cons, List.mem_map]
    constructor
    · rintro ⟨⟨hc, hm, hi⟩, hcs, hnd, hms, hids, his, rfl, rfl⟩
      have hne : ∀ e ∈ ds, e.identity ≠ d.identity := fun e he heq => by
        have hmem := hms e he
        rw [heq, Std.ExtTreeMap.mem_erase] at hmem
        exact hmem.1 Std.compare_self
      refine ⟨⟨hc, hcs⟩, ⟨?_, hnd⟩, ⟨hm, fun e he => ?_⟩, ⟨?_, hids⟩, ⟨hi, fun e he h => ?_⟩, rfl, ?_⟩
      · rintro ⟨e, he, heq⟩
        exact hne e he heq
      · exact Std.ExtTreeMap.mem_of_mem_erase (hms e he)
      · rintro ⟨e, he, heq⟩
        exact his e he (BTreeMap.mem_insert.mpr (Or.inl heq))
      · exact his e he (BTreeMap.mem_insert.mpr (Or.inr h))
      · rw [hmap hne, BTreeMap.insertMany_cons]
    · rintro ⟨⟨hc, hcs⟩, ⟨hnot, hnd⟩, ⟨hm, hms⟩, ⟨hnid, hids⟩, ⟨hi, his⟩, rfl, rfl⟩
      have hne : ∀ e ∈ ds, e.identity ≠ d.identity := fun e he heq => hnot ⟨e, he, heq⟩
      refine ⟨⟨hc, hm, hi⟩, hcs, hnd, fun e he => ?_, hids, fun e he h => ?_, rfl, ?_⟩
      · rw [Std.ExtTreeMap.mem_erase]
        exact ⟨fun h => hne e he (Std.LawfulEqOrd.eq_of_compare h).symm, hms e he⟩
      · rcases BTreeMap.mem_insert.mp h with heq | h
        · exact hnid ⟨e, he, heq⟩
        · exact his e he h
      · rw [hmap hne, BTreeMap.insertMany_cons]

theorem takeNamespaces_cons_ok {credentialId : UInt64} {ns : PlannedMdocNamespace}
    {rest : List PlannedMdocNamespace} {m m' : BTreeMap Identity Bytes}
    {maps maps' : BTreeMap String DigestIds} :
    takeNamespaces credentialId (ns :: rest) m maps = .ok (m', maps') ↔
      ∃ m₁ ids, takeDigests credentialId ns.digests m ∅ = .ok (m₁, ids) ∧ ns.name ∉ maps ∧
        takeNamespaces credentialId rest m₁ (maps.insert ns.name ids) = .ok (m', maps') := by
  rw [takeNamespaces]
  cases h : takeDigests credentialId ns.digests m ∅ with
  | error e => simp [bind, Except.bind]
  | ok p =>
    obtain ⟨m₁, ids⟩ := p
    by_cases hn : ns.name ∈ maps
    · simp [bind, Except.bind, hn]
    · simp [bind, Except.bind, hn]

/-- **The loop over the namespaces of a plan.** -/
theorem takeNamespaces_ok {credentialId : UInt64} {nss : List PlannedMdocNamespace}
    {m m' : BTreeMap Identity Bytes} {maps maps' : BTreeMap String DigestIds} :
    takeNamespaces credentialId nss m maps = .ok (m', maps') ↔
      (∀ d ∈ nss.flatMap (·.digests), d.credentialId = credentialId) ∧
      ((nss.flatMap (·.digests)).map PlannedMdocDigest.identity).Nodup ∧
      (∀ d ∈ nss.flatMap (·.digests), d.identity ∈ m) ∧
      (∀ ns ∈ nss, (ns.digests.map PlannedMdocDigest.digestId).Nodup) ∧
      (nss.map PlannedMdocNamespace.name).Nodup ∧
      (∀ ns ∈ nss, ns.name ∉ maps) ∧
      m' = BTreeMap.eraseMany m ((nss.flatMap (·.digests)).map PlannedMdocDigest.identity) ∧
      maps' = maps.insertMany (nss.map fun ns => (ns.name, ns.digestIds (heldDigest m))) := by
  induction nss generalizing m maps with
  | nil => simp [takeNamespaces, BTreeMap.eraseMany_nil, eq_comm]
  | cons ns nss ih =>
    have hmap (hne : ∀ d ∈ nss.flatMap (·.digests),
          d.identity ∉ ns.digests.map PlannedMdocDigest.identity) :
        (nss.map fun n => (n.name, n.digestIds (heldDigest
            (BTreeMap.eraseMany m (ns.digests.map PlannedMdocDigest.identity))))) =
          nss.map fun n => (n.name, n.digestIds (heldDigest m)) := by
      refine List.map_congr_left fun n hn => ?_
      rw [PlannedMdocNamespace.digestIds_congr]
      intro d hd
      exact heldDigest_eraseMany (hne d (List.mem_flatMap.mpr ⟨n, hn, hd⟩))
    rw [takeNamespaces_cons_ok]
    simp only [takeDigests_ok, ih, List.flatMap_cons, List.map_append, List.map_cons,
      List.forall_mem_append, List.forall_mem_cons, List.nodup_cons, List.nodup_append,
      BTreeMap.eraseMany_append]
    constructor
    · rintro ⟨m₁, ids, ⟨hc, hnd, hm, hid, -, rfl, rfl⟩, hn, hcs, hnds, hms, hids, hns, hfresh, rfl,
        rfl⟩
      have hne : ∀ d ∈ nss.flatMap (·.digests),
          d.identity ∉ ns.digests.map PlannedMdocDigest.identity := fun d hd =>
        (BTreeMap.mem_eraseMany.mp (hms d hd)).2
      refine ⟨⟨hc, hcs⟩, ⟨hnd, hnds, ?_⟩, ⟨hm, fun d hd => ?_⟩, ⟨hid, hids⟩, ⟨fun h => ?_, hns⟩,
        ⟨hn, fun n hn' h => ?_⟩, rfl, ?_⟩
      · rintro a ha b hb rfl
        obtain ⟨d, hd, rfl⟩ := List.mem_map.mp hb
        exact hne d hd ha
      · exact (BTreeMap.mem_eraseMany.mp (hms d hd)).1
      · obtain ⟨n, hn', heq⟩ := List.mem_map.mp h
        exact hfresh n hn' (BTreeMap.mem_insert.mpr (Or.inl heq))
      · exact hfresh n hn' (BTreeMap.mem_insert.mpr (Or.inr h))
      · rw [hmap hne, BTreeMap.insertMany_cons, BTreeMap.insertMany_empty]
        rfl
    · rintro ⟨⟨hc, hcs⟩, ⟨hnd, hnds, hdis⟩, ⟨hm, hms⟩, ⟨hid, hids⟩, ⟨hnot, hns⟩, ⟨hn, hfresh⟩, rfl,
        rfl⟩
      have hne : ∀ d ∈ nss.flatMap (·.digests),
          d.identity ∉ ns.digests.map PlannedMdocDigest.identity := fun d hd h =>
        hdis _ h _ (List.mem_map.mpr ⟨d, hd, rfl⟩) rfl
      refine ⟨_, _, ⟨hc, hnd, hm, hid, fun _ _ => Std.ExtTreeMap.not_mem_empty, rfl, rfl⟩, hn, hcs,
        hnds, fun d hd => BTreeMap.mem_eraseMany.mpr ⟨hms d hd, hne d hd⟩, hids, hns, ?_, rfl, ?_⟩
      · intro n hn' h
        rcases BTreeMap.mem_insert.mp h with heq | h
        · exact hnot (List.mem_map.mpr ⟨n, hn', heq⟩)
        · exact hfresh n hn' h
      · rw [hmap hne, BTreeMap.insertMany_cons, BTreeMap.insertMany_empty]
        rfl

/-! ## the loop over the plans -/

/-- every job of the plan finds a result that fits it -/
def MdocDigestPlan.Served (plan : MdocDigestPlan)
    (resultsByIdentity : BTreeMap Identity DigestResult) : Prop :=
  ∀ job ∈ plan.jobs, ∃ result, resultsByIdentity[job.identity]? = some result ∧ Fits job result

theorem heldDigest_ofList {jobs : List DigestJob} {f : Identity → Bytes} {a : Identity}
    (hnd : (jobs.map DigestJob.identity).Nodup) (ha : a ∈ jobs.map DigestJob.identity) :
    heldDigest (Std.ExtTreeMap.ofList (jobs.map fun j => (j.identity, f j.identity)) compare) a =
      f a := by
  obtain ⟨j, hj, rfl⟩ := List.mem_map.mp ha
  apply heldDigest_of_some
  apply BTreeMap.getElem?_ofList_of_mem
  · rw [List.map_map]
    exact hnd
  · exact List.mem_map.mpr ⟨j, hj, rfl⟩

/-- **One plan is accepted exactly when it is well formed and served.** -/
theorem takePlan_ok {plan : MdocDigestPlan} {m m' : BTreeMap Identity DigestResult}
    {maps : BTreeMap String DigestIds} :
    takePlan plan m = .ok (m', maps) ↔
      plan.WellFormed ∧ plan.Served m ∧
      m' = BTreeMap.eraseMany m (plan.jobs.map DigestJob.identity) ∧
      maps = plan.valueDigests (digestOf m) := by
  have hkeys (a : Identity) : a ∈ Std.ExtTreeMap.ofList
      (plan.jobs.map fun j => (j.identity, digestOf m j.identity)) compare ↔
        a ∈ plan.jobs.map DigestJob.identity := by
    rw [BTreeMap.mem_ofList, List.map_map]
    rfl
  have hheld (hnd : (plan.jobs.map DigestJob.identity).Nodup)
      (hmem : ∀ d ∈ plan.digests, d.identity ∈ plan.jobs.map DigestJob.identity) :
      plan.valueDigests (heldDigest (Std.ExtTreeMap.ofList
        (plan.jobs.map fun j => (j.identity, digestOf m j.identity)) compare)) =
          plan.valueDigests (digestOf m) :=
    MdocDigestPlan.valueDigests_congr fun d hd => heldDigest_ofList hnd (hmem d hd)
  have hsplit : takePlan plan m = .ok (m', maps) ↔ ∃ st, ∃ digests,
      takeJobs plan.credentialId plan.jobs ⟨m, ∅, ∅⟩ = .ok st ∧
      takeNamespaces plan.credentialId plan.namespaces st.digestsByIdentity ∅ = .ok (digests, maps) ∧
      digests = ∅ ∧ m' = st.resultsByIdentity := by
    unfold takePlan
    cases hj : takeJobs plan.credentialId plan.jobs ⟨m, ∅, ∅⟩ with
    | error e => simp [bind, Except.bind]
    | ok st =>
      cases hn : takeNamespaces plan.credentialId plan.namespaces st.digestsByIdentity ∅ with
      | error e => simp [bind, Except.bind, hn]
      | ok p =>
        obtain ⟨digests, maps₁⟩ := p
        by_cases he : digests = ∅
        · subst he
          simp [bind, Except.bind, hn, eq_comm, and_comm]
        · simp [bind, Except.bind, hn, he]
  rw [hsplit]
  constructor
  · rintro ⟨st, digests, hjobs, hns, hempty, rfl⟩
    obtain ⟨hjc, hjd, -, hserved, rfl⟩ := takeJobs_ok.mp hjobs
    obtain ⟨hdc, hdd, hmem, hids, hnames, -, rfl, rfl⟩ := takeNamespaces_ok.mp hns
    simp only [BTreeMap.insertMany_empty] at hmem hempty ⊢
    have hsub : ∀ d ∈ plan.digests, d.identity ∈ plan.jobs.map DigestJob.identity :=
      fun d hd => (hkeys _).mp (hmem d hd)
    have hperm : (plan.digests.map PlannedMdocDigest.identity).Perm
        (plan.jobs.map DigestJob.identity) := by
      refine (List.perm_ext_iff_of_nodup hdd hjd).mpr fun a => ⟨fun ha => ?_, fun ha => ?_⟩
      · obtain ⟨d, hd, rfl⟩ := List.mem_map.mp ha
        exact hsub d hd
      · exact BTreeMap.eraseMany_eq_empty.mp hempty a ((hkeys a).mpr ha)
    exact ⟨⟨hjc, hdc, hjd, hperm, hnames, hids⟩, hserved, trivial, hheld hjd hsub⟩
  · rintro ⟨hwf, hserved, rfl, rfl⟩
    have hsub : ∀ d ∈ plan.digests, d.identity ∈ plan.jobs.map DigestJob.identity := fun d hd =>
      hwf.jobs_referenced_once.mem_iff.mp (List.mem_map.mpr ⟨d, hd, rfl⟩)
    refine ⟨_, _, takeJobs_ok.mpr ⟨hwf.jobs_credential, hwf.jobs_distinct, ?_, hserved, rfl⟩,
      takeNamespaces_ok.mpr ⟨hwf.digests_credential, ?_, ?_, hwf.ids_distinct, hwf.names_distinct,
        fun _ _ => Std.ExtTreeMap.not_mem_empty, rfl, ?_⟩, ?_, rfl⟩
    · intro job _
      exact Finset.notMem_empty _
    · exact hwf.jobs_referenced_once.nodup_iff.mpr hwf.jobs_distinct
    · intro d hd
      simp only [BTreeMap.insertMany_empty]
      exact (hkeys _).mpr (hsub d hd)
    · simp only [BTreeMap.insertMany_empty]
      exact (hheld hwf.jobs_distinct hsub).symm
    · simp only [BTreeMap.insertMany_empty]
      refine BTreeMap.eraseMany_eq_empty.mpr fun a ha => ?_
      exact hwf.jobs_referenced_once.mem_iff.mpr ((hkeys a).mp ha)

theorem MdocDigestPlan.WellFormed.credential_of_mem {plan : MdocDigestPlan} (hwf : plan.WellFormed)
    {a : Identity} (ha : a ∈ plan.jobs.map DigestJob.identity) : a.1 = plan.credentialId := by
  obtain ⟨job, hjob, rfl⟩ := List.mem_map.mp ha
  exact hwf.jobs_credential job hjob

theorem takePlans_cons_ok {plan : MdocDigestPlan} {plans : List MdocDigestPlan}
    {seen : Finset UInt64} {m m' : BTreeMap Identity DigestResult}
    {batches : List (BTreeMap String DigestIds)} :
    takePlans (plan :: plans) seen m = .ok (batches, m') ↔
      plan.credentialId ∉ seen ∧ ∃ m₁ maps rest, takePlan plan m = .ok (m₁, maps) ∧
        takePlans plans (insert plan.credentialId seen) m₁ = .ok (rest, m') ∧
        batches = maps :: rest := by
  rw [takePlans]
  by_cases hs : plan.credentialId ∈ seen
  · simp [hs]
  cases hp : takePlan plan m with
  | error e => simp [hs, bind, Except.bind]
  | ok p =>
    obtain ⟨m₁, maps⟩ := p
    cases hr : takePlans plans (insert plan.credentialId seen) m₁ with
    | error e => simp [hs, bind, Except.bind, hr]
    | ok q =>
      obtain ⟨rest, m₂⟩ := q
      simp [hs, bind, Except.bind, hr, eq_comm, and_comm]

/-- **The loop over the plans: distinct credentials, each plan well formed and served.** -/
theorem takePlans_ok {plans : List MdocDigestPlan} {seen : Finset UInt64}
    {m m' : BTreeMap Identity DigestResult} {batches : List (BTreeMap String DigestIds)} :
    takePlans plans seen m = .ok (batches, m') ↔
      (plans.map MdocDigestPlan.credentialId).Nodup ∧
      (∀ plan ∈ plans, plan.credentialId ∉ seen) ∧
      (∀ plan ∈ plans, plan.WellFormed ∧ plan.Served m) ∧
      m' = BTreeMap.eraseMany m ((plans.flatMap (·.jobs)).map DigestJob.identity) ∧
      batches = plans.map fun plan => plan.valueDigests (digestOf m) := by
  induction plans generalizing seen m batches with
  | nil => simp [takePlans, BTreeMap.eraseMany_nil, eq_comm, and_comm]
  | cons plan plans ih =>
    -- the identities of one plan are never those of a plan of another credential
    have hforeign (hwf : plan.WellFormed) {p : MdocDigestPlan} (hp : p.WellFormed)
        (hne : p.credentialId ≠ plan.credentialId) {a : Identity}
        (ha : a ∈ p.jobs.map DigestJob.identity) : a ∉ plan.jobs.map DigestJob.identity :=
      fun h => hne ((hp.credential_of_mem ha).symm.trans (hwf.credential_of_mem h))
    have hserved (hwf : plan.WellFormed) {p : MdocDigestPlan} (hp : p.WellFormed)
        (hne : p.credentialId ≠ plan.credentialId) :
        p.Served (BTreeMap.eraseMany m (plan.jobs.map DigestJob.identity)) ↔ p.Served m := by
      refine forall₂_congr fun job hjob => ?_
      have hnot := hforeign hwf hp hne (List.mem_map.mpr ⟨job, hjob, rfl⟩)
      rw [BTreeMap.getElem?_eraseMany, if_neg hnot]
    have hmaps (hwf : plan.WellFormed)
        (hps : ∀ p ∈ plans, p.WellFormed ∧ p.credentialId ≠ plan.credentialId) :
        (plans.map fun p => p.valueDigests (digestOf
          (BTreeMap.eraseMany m (plan.jobs.map DigestJob.identity)))) =
            plans.map fun p => p.valueDigests (digestOf m) := by
      refine List.map_congr_left fun p hp => MdocDigestPlan.valueDigests_congr fun d hd => ?_
      obtain ⟨hpwf, hne⟩ := hps p hp
      exact digestOf_eraseMany (hforeign hwf hpwf hne
        (hpwf.jobs_referenced_once.mem_iff.mp (List.mem_map.mpr ⟨d, hd, rfl⟩)))
    rw [takePlans_cons_ok]
    simp only [takePlan_ok, ih, List.map_cons, List.nodup_cons, List.forall_mem_cons,
      List.flatMap_cons, List.map_append, BTreeMap.eraseMany_append]
    constructor
    · rintro ⟨hs, m₁, maps, rest, ⟨hwf, hserve, rfl, rfl⟩, ⟨hnd, hseen, hps, rfl, rfl⟩, rfl⟩
      have hne : ∀ p ∈ plans, p.credentialId ≠ plan.credentialId := fun p hp heq =>
        hseen p hp (Finset.mem_insert.mpr (Or.inl heq))
      refine ⟨⟨fun h => ?_, hnd⟩, ⟨hs, fun p hp h => ?_⟩, ⟨⟨hwf, hserve⟩, fun p hp => ?_⟩, rfl, ?_⟩
      · obtain ⟨p, hp, heq⟩ := List.mem_map.mp h
        exact hne p hp heq
      · exact hseen p hp (Finset.mem_insert_of_mem h)
      · exact ⟨(hps p hp).1, (hserved hwf (hps p hp).1 (hne p hp)).mp (hps p hp).2⟩
      · rw [hmaps hwf fun p hp => ⟨(hps p hp).1, hne p hp⟩]
    · rintro ⟨⟨hnot, hnd⟩, ⟨hs, hseen⟩, ⟨⟨hwf, hserve⟩, hps⟩, rfl, rfl⟩
      have hne : ∀ p ∈ plans, p.credentialId ≠ plan.credentialId := fun p hp heq =>
        hnot (List.mem_map.mpr ⟨p, hp, heq⟩)
      refine ⟨hs, _, _, _, ⟨hwf, hserve, rfl, rfl⟩, ⟨hnd, fun p hp h => ?_, fun p hp => ?_, rfl, rfl⟩,
        ?_⟩
      · rcases Finset.mem_insert.mp h with heq | h
        · exact hne p hp heq
        · exact hseen p hp h
      · exact ⟨(hps p hp).1, (hserved hwf (hps p hp).1 (hne p hp)).mpr (hps p hp).2⟩
      · rw [hmaps hwf fun p hp => ⟨(hps p hp).1, hne p hp⟩]

/-! ## the results by identity -/

theorem foldl_collect (results : List DigestResult) (m : BTreeMap Identity DigestResult)
    (duplicate : Bool) :
    results.foldl (fun (byIdentity, duplicate) result =>
        (byIdentity.insert result.identity result,
          duplicate || byIdentity.contains result.identity)) (m, duplicate) =
      (m.insertMany (results.map fun r => (r.identity, r)),
        duplicate || !decide ((results.map DigestResult.identity).Nodup ∧
          ∀ r ∈ results, r.identity ∉ m)) := by
  induction results generalizing m duplicate with
  | nil => simp
  | cons r rs ih =>
    rw [List.foldl_cons, ih, List.map_cons, BTreeMap.insertMany_cons]
    congr 1
    rw [Bool.or_assoc]
    congr 1
    by_cases hr : r.identity ∈ m
    · simp [hr]
    · have hc : m.contains r.identity = false := by
        rw [Bool.eq_false_iff, Ne, Std.ExtTreeMap.contains_iff_mem]
        exact hr
      rw [hc, Bool.false_or]
      congr 1
      rw [decide_eq_decide, List.map_cons, List.nodup_cons, List.forall_mem_cons]
      simp only [BTreeMap.mem_insert, not_or, List.mem_map]
      grind

theorem collectResults_fst (results : List DigestResult) :
    (collectResults results).1 =
      Std.ExtTreeMap.ofList (results.map fun r => (r.identity, r)) compare := by
  rw [collectResults, foldl_collect, BTreeMap.insertMany_empty]

theorem collectResults_snd (results : List DigestResult) :
    (collectResults results).2 = false ↔ (results.map DigestResult.identity).Nodup := by
  rw [collectResults, foldl_collect]
  simp

theorem mem_collectResults {results : List DigestResult} {a : Identity} :
    a ∈ (collectResults results).1 ↔ a ∈ results.map DigestResult.identity := by
  rw [collectResults_fst, BTreeMap.mem_ofList, List.map_map]
  rfl

theorem getElem?_collectResults {results : List DigestResult}
    (hnd : (results.map DigestResult.identity).Nodup) {a : Identity} {r : DigestResult} :
    (collectResults results).1[a]? = some r ↔ r ∈ results ∧ r.identity = a := by
  rw [collectResults_fst, BTreeMap.getElem?_ofList (by rw [List.map_map]; exact hnd)]
  simp only [List.mem_map, Prod.mk.injEq]
  constructor
  · rintro ⟨r', hr', rfl, rfl⟩
    exact ⟨hr', rfl⟩
  · rintro ⟨hr, rfl⟩
    exact ⟨r, hr, rfl, rfl⟩

/-- the identities of all jobs are distinct when the credentials and the plans are -/
theorem jobs_identity_nodup {plans : List MdocDigestPlan}
    (hnd : (plans.map MdocDigestPlan.credentialId).Nodup) (hwf : ∀ plan ∈ plans, plan.WellFormed) :
    ((plans.flatMap (·.jobs)).map DigestJob.identity).Nodup := by
  rw [List.map_flatMap, List.nodup_flatMap]
  refine ⟨fun plan hplan => (hwf plan hplan).jobs_distinct, ?_⟩
  rw [List.Nodup, List.pairwise_map] at hnd
  refine hnd.imp_of_mem fun {p q} hp hq hne => ?_
  intro a hap haq
  exact hne (((hwf p hp).credential_of_mem hap).symm.trans ((hwf q hq).credential_of_mem haq))

/-- **Distinct results that serve every job and leave none over are exactly the results asked
for.** -/
theorem resultsExact_iff {plans : List MdocDigestPlan} {results : List DigestResult}
    (hjobs : ((plans.flatMap (·.jobs)).map DigestJob.identity).Nodup) :
    ResultsExact plans results ↔
      (results.map DigestResult.identity).Nodup ∧
      (∀ plan ∈ plans, plan.Served (collectResults results).1) ∧
      BTreeMap.eraseMany (collectResults results).1
        ((plans.flatMap (·.jobs)).map DigestJob.identity) = ∅ := by
  have hfst_r : (results.map DigestResult.shape).map Prod.fst =
      results.map DigestResult.identity := by
    rw [List.map_map]
    rfl
  have hfst_j : ((plans.flatMap (·.jobs)).map DigestJob.shape).map Prod.fst =
      (plans.flatMap (·.jobs)).map DigestJob.identity := by
    rw [List.map_map]
    rfl
  rw [BTreeMap.eraseMany_eq_empty]
  constructor
  · intro hexact
    have hids : (results.map DigestResult.identity).Perm
        ((plans.flatMap (·.jobs)).map DigestJob.identity) := by
      rw [← hfst_r, ← hfst_j]
      exact hexact.map Prod.fst
    have hnd := hids.nodup_iff.mpr hjobs
    refine ⟨hnd, fun plan hplan job hjob => ?_, fun a ha => ?_⟩
    · have hmem : job.shape ∈ results.map DigestResult.shape := hexact.mem_iff.mpr
        (List.mem_map.mpr ⟨job, List.mem_flatMap.mpr ⟨plan, hplan, hjob⟩, rfl⟩)
      obtain ⟨r, hr, heq⟩ := List.mem_map.mp hmem
      simp only [DigestResult.shape, DigestJob.shape, Prod.mk.injEq] at heq
      exact ⟨r, (getElem?_collectResults hnd).mpr ⟨hr, heq.1⟩, heq.2⟩
    · exact hids.mem_iff.mp (mem_collectResults.mp ha)
  · rintro ⟨hnd, hserved, hleft⟩
    refine (List.perm_ext_iff_of_nodup (hfst_r ▸ hnd).of_map (hfst_j ▸ hjobs).of_map).mpr
      fun s => ⟨fun hs => ?_, fun hs => ?_⟩
    · obtain ⟨r, hr, rfl⟩ := List.mem_map.mp hs
      have hkey : r.identity ∈ (plans.flatMap (·.jobs)).map DigestJob.identity :=
        hleft _ (mem_collectResults.mpr (List.mem_map.mpr ⟨r, hr, rfl⟩))
      obtain ⟨job, hjob, heq⟩ := List.mem_map.mp hkey
      obtain ⟨plan, hplan, hmem⟩ := List.mem_flatMap.mp hjob
      obtain ⟨r', hr', hfit⟩ := hserved plan hplan job hmem
      rw [heq, (getElem?_collectResults hnd).mpr ⟨hr, rfl⟩] at hr'
      cases hr'
      refine List.mem_map.mpr ⟨job, hjob, ?_⟩
      rw [DigestJob.shape, DigestResult.shape, heq, hfit.1, hfit.2]
    · obtain ⟨job, hjob, rfl⟩ := List.mem_map.mp hs
      obtain ⟨plan, hplan, hmem⟩ := List.mem_flatMap.mp hjob
      obtain ⟨r, hr, hfit⟩ := hserved plan hplan job hmem
      obtain ⟨hr, heq⟩ := (getElem?_collectResults hnd).mp hr
      refine List.mem_map.mpr ⟨r, hr, ?_⟩
      rw [DigestJob.shape, DigestResult.shape, heq, hfit.1, hfit.2]

/-! ## the whole assembly -/

/-- **What the reordered assembly accepts, and the maps it returns.** -/
theorem assembleReorderedDigestBatches_ok {plans : List MdocDigestPlan}
    {results : List DigestResult} {batches : List (BTreeMap String DigestIds)} :
    assembleReorderedDigestBatches plans results = .ok batches ↔
      (plans.map MdocDigestPlan.credentialId).Nodup ∧
      (∀ plan ∈ plans, plan.WellFormed) ∧ ResultsExact plans results ∧
      batches = plans.map fun plan => plan.valueDigests (digestOf (collectResults results).1) := by
  have hsplit : assembleReorderedDigestBatches plans results = .ok batches ↔
      (results.map DigestResult.identity).Nodup ∧
        ∃ m, takePlans plans ∅ (collectResults results).1 = .ok (batches, m) ∧ m = ∅ := by
    rw [← collectResults_snd, assembleReorderedDigestBatches]
    cases hdup : (collectResults results).2 with
    | true => simp [hdup]
    | false =>
      cases ht : takePlans plans ∅ (collectResults results).1 with
      | error e => simp [hdup, ht, bind, Except.bind]
      | ok p =>
        obtain ⟨batches₁, m⟩ := p
        by_cases he : m = ∅
        · subst he
          simp [hdup, ht, bind, Except.bind]
        · simp [hdup, ht, bind, Except.bind, he]
  rw [hsplit]
  simp only [takePlans_ok]
  constructor
  · rintro ⟨hnd, m, ⟨hc, -, hps, rfl, rfl⟩, hempty⟩
    have hwf := fun plan hplan => (hps plan hplan).1
    refine ⟨hc, hwf, (resultsExact_iff (jobs_identity_nodup hc hwf)).mpr ⟨hnd, ?_, hempty⟩, rfl⟩
    exact fun plan hplan => (hps plan hplan).2
  · rintro ⟨hc, hwf, hexact, rfl⟩
    obtain ⟨hnd, hserved, hempty⟩ := (resultsExact_iff (jobs_identity_nodup hc hwf)).mp hexact
    exact ⟨hnd, _, ⟨hc, fun plan _ => Finset.notMem_empty _,
      fun plan hplan => ⟨hwf plan hplan, hserved plan hplan⟩, rfl, rfl⟩, hempty⟩

/-- the map `namespaces` holds exactly the entries of the plan, each with the digest of the
result for the job it references -/
def Restores (plan : MdocDigestPlan) (results : List DigestResult)
    (namespaces : BTreeMap String DigestIds) : Prop :=
  (∀ name, name ∈ namespaces ↔ ∃ ns ∈ plan.namespaces, ns.name = name) ∧
  ∀ ns ∈ plan.namespaces, ∃ digestIds, namespaces[ns.name]? = some digestIds ∧
    ∀ digestId digest, digestIds[digestId]? = some digest ↔
      ∃ entry ∈ ns.digests, entry.digestId = digestId ∧
        ∃ job ∈ plan.jobs, job.identity = entry.identity ∧
          ∃ result ∈ results, result.identity = job.identity ∧ result.digest = digest.bytes

theorem restores_valueDigests {plans : List MdocDigestPlan} {results : List DigestResult}
    (hc : (plans.map MdocDigestPlan.credentialId).Nodup)
    (hwf : ∀ plan ∈ plans, plan.WellFormed) (hexact : ResultsExact plans results)
    {plan : MdocDigestPlan} (hplan : plan ∈ plans) :
    Restores plan results (plan.valueDigests (digestOf (collectResults results).1)) := by
  obtain ⟨hnd, hserved, -⟩ := (resultsExact_iff (jobs_identity_nodup hc hwf)).mp hexact
  refine ⟨fun name => ?_, fun ns hns => ⟨ns.digestIds (digestOf (collectResults results).1), ?_, ?_⟩⟩
  · rw [MdocDigestPlan.valueDigests, BTreeMap.mem_ofList, List.map_map, List.mem_map]
    rfl
  · apply BTreeMap.getElem?_ofList_of_mem
    · rw [List.map_map]
      exact (hwf plan hplan).names_distinct
    · exact List.mem_map.mpr ⟨ns, hns, rfl⟩
  · intro digestId digest
    have hids : ((ns.digests.map fun d => (d.digestId,
        (⟨digestOf (collectResults results).1 d.identity⟩ : ByteStr))).map Prod.fst).Nodup := by
      rw [List.map_map]
      exact (hwf plan hplan).ids_distinct ns hns
    rw [PlannedMdocNamespace.digestIds, BTreeMap.getElem?_ofList hids, List.mem_map]
    -- the digest of an entry is the one of the only result for the only job it references
    have hentry : ∀ entry ∈ ns.digests, ∃ job ∈ plan.jobs, job.identity = entry.identity ∧
        ∃ result ∈ results, result.identity = job.identity ∧
          result.digest = digestOf (collectResults results).1 entry.identity := by
      intro entry hentry
      have hmem := (hwf plan hplan).jobs_referenced_once.mem_iff.mp
        (List.mem_map.mpr ⟨entry, List.mem_flatMap.mpr ⟨ns, hns, hentry⟩, rfl⟩)
      obtain ⟨job, hjob, heq⟩ := List.mem_map.mp hmem
      obtain ⟨result, hlook, -⟩ := hserved plan hplan job hjob
      obtain ⟨hr, hid⟩ := (getElem?_collectResults hnd).mp hlook
      exact ⟨job, hjob, heq, result, hr, hid, by rw [← heq, digestOf_of_some hlook]⟩
    constructor
    · rintro ⟨entry, he, heq⟩
      cases heq
      obtain ⟨job, hjob, hid, result, hr, hrid, hdigest⟩ := hentry entry he
      exact ⟨entry, he, rfl, job, hjob, hid, result, hr, hrid, hdigest⟩
    · rintro ⟨entry, he, rfl, job, hjob, hid, result, hr, hrid, hdigest⟩
      refine ⟨entry, he, ?_⟩
      have hlook := (getElem?_collectResults hnd).mpr ⟨hr, hrid.trans hid⟩
      rw [digestOf_of_some hlook, hdigest]

/-- **Fail-closed exactness: the assembly succeeds exactly on consistent plans with one matching
result for each job, and then restores every digest to its own credential, namespace and id.** -/
theorem assembleReorderedDigestBatches_exact (plans : List MdocDigestPlan)
    (results : List DigestResult) :
    ((∃ batches, assembleReorderedDigestBatches plans results = .ok batches) ↔
      (plans.map MdocDigestPlan.credentialId).Nodup ∧ (∀ plan ∈ plans, plan.WellFormed) ∧
        ResultsExact plans results) ∧
    ∀ batches, assembleReorderedDigestBatches plans results = .ok batches →
      List.Forall₂ (fun plan namespaces => Restores plan results namespaces) plans batches := by
  refine ⟨⟨?_, ?_⟩, ?_⟩
  · rintro ⟨batches, h⟩
    obtain ⟨hc, hwf, hexact, -⟩ := assembleReorderedDigestBatches_ok.mp h
    exact ⟨hc, hwf, hexact⟩
  · rintro ⟨hc, hwf, hexact⟩
    exact ⟨_, assembleReorderedDigestBatches_ok.mpr ⟨hc, hwf, hexact, rfl⟩⟩
  · intro batches h
    obtain ⟨hc, hwf, hexact, rfl⟩ := assembleReorderedDigestBatches_ok.mp h
    rw [List.forall₂_map_right_iff, List.forall₂_same]
    exact fun plan hplan => restores_valueDigests hc hwf hexact hplan

end Isomdl
