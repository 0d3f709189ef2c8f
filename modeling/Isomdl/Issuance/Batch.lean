import Isomdl.Issuance.Commitments
import Isomdl.Reference

/-!
# Batch preparation is sequential preparation

The batch path plans every credential under its own id, flattens all jobs into one executor
call and restores the results by identity; the sequential path prepares the credentials one
after another under credential id 0 with the serial executor.  Both read the generator in the
same order, and finish from the same digest tables.

* `planDigestNamespacesForCredential_relabel`  planning under an id is planning under 0, relabelled;
* `finishBatch_eq`                             what happens after planning;
* `prepareBatch_eq_sequential`                 the two paths return the same credentials and leave
                                               the generator at the same position.
-/

set_option linter.unusedSectionVars false

namespace Isomdl

open Cbor

/-! ## relabelling a plan -/

def DigestJob.relabel (credentialId : UInt64) (job : DigestJob) : DigestJob :=
  { job with credentialId }

def PlannedMdocDigest.relabel (credentialId : UInt64) (d : PlannedMdocDigest) :
    PlannedMdocDigest :=
  { d with credentialId }

def PlannedMdocNamespace.relabel (credentialId : UInt64) (ns : PlannedMdocNamespace) :
    PlannedMdocNamespace :=
  { ns with digests := ns.digests.map (PlannedMdocDigest.relabel credentialId) }

/-- the plan under another credential id -/
def MdocDigestPlan.relabel (credentialId : UInt64) (plan : MdocDigestPlan) : MdocDigestPlan :=
  ⟨credentialId, plan.namespaces.map (PlannedMdocNamespace.relabel credentialId),
    plan.jobs.map (DigestJob.relabel credentialId)⟩

def PlanState.relabel (credentialId : UInt64) (st : PlanState) : PlanState where
  nextJobId := st.nextJobId
  jobs := st.jobs.map (DigestJob.relabel credentialId)
  plannedDigests := st.plannedDigests.map (PlannedMdocDigest.relabel credentialId)

theorem jobsFrom_relabel (cid cid' : UInt64) (algorithm : DigestAlgorithm) (n ordinal : Nat)
    (c : Commitment) :
    (jobsFrom cid algorithm n ordinal c).map (DigestJob.relabel cid') =
      jobsFrom cid' algorithm n ordinal c := by
  induction c generalizing n ordinal with
  | nil => rfl
  | cons e c ih =>
    rw [jobsFrom, List.map_cons, ih]
    rfl

theorem digestsFrom_relabel (cid cid' : UInt64) (n : Nat) (c : Commitment) :
    (digestsFrom cid n c).map (PlannedMdocDigest.relabel cid') = digestsFrom cid' n c := by
  induction c generalizing n with
  | nil => rfl
  | cons e c ih =>
    rw [digestsFrom, List.map_cons, ih]
    rfl

theorem namespacesFrom_relabel (cid cid' : UInt64) (n : Nat) (cs : List (String × Commitment)) :
    (namespacesFrom cid n cs).map (PlannedMdocNamespace.relabel cid') =
      namespacesFrom cid' n cs := by
  induction cs generalizing n with
  | nil => rfl
  | cons e cs ih =>
    rw [namespacesFrom, List.map_cons, ih, namespacesFrom, PlannedMdocNamespace.relabel,
      digestsFrom_relabel]

theorem allJobsFrom_relabel (cid cid' : UInt64) (algorithm : DigestAlgorithm) (n : Nat)
    (cs : List (String × Commitment)) :
    (allJobsFrom cid algorithm n cs).map (DigestJob.relabel cid') =
      allJobsFrom cid' algorithm n cs := by
  induction cs generalizing n with
  | nil => rfl
  | cons e cs ih => rw [allJobsFrom, List.map_append, jobsFrom_relabel, ih, allJobsFrom]

theorem planFrom_relabel (cid cid' : UInt64) (algorithm : DigestAlgorithm)
    (cs : List (String × Commitment)) :
    (planFrom cid algorithm cs).relabel cid' = planFrom cid' algorithm cs := by
  rw [planFrom, MdocDigestPlan.relabel, namespacesFrom_relabel, allJobsFrom_relabel, planFrom]

/-! ## planning under an id is planning under another, relabelled -/

section
variable {R : Type} [RngCore R] [Ciborium]

theorem ofResult_map {α β : Type} (f : α → β) (x : Except String α) :
    (ofResult (f <$> x) : Prepare R β) = f <$> ofResult x := by
  funext r
  cases x <;> rfl

theorem ofResult_bind {α β : Type} (x : Except String α) (f : α → Except String β) :
    (ofResult (x >>= f) : Prepare R β) = ofResult x >>= fun a => ofResult (f a) := by
  funext r
  cases x <;> rfl

theorem pushPlannedDigest_relabel (cid cid' : UInt64) (digestId : DigestId) (ordinal : Nat)
    (algorithm : DigestAlgorithm) (input : Bytes) (st : PlanState) :
    pushPlannedDigest cid' digestId ordinal algorithm input (st.relabel cid') =
      PlanState.relabel cid' <$> pushPlannedDigest cid digestId ordinal algorithm input st := by
  have hnext : (st.relabel cid').nextJobId = st.nextJobId := rfl
  rw [pushPlannedDigest, pushPlannedDigest, hnext]
  cases st.nextJobId.checkedAdd 1 with
  | none => rfl
  | some nextJobId =>
    show Except.ok _ = Except.ok _
    simp [PlanState.relabel, DigestJob.relabel, PlannedMdocDigest.relabel]

theorem planItems_relabel (cid cid' : UInt64) (algorithm : DigestAlgorithm)
    (elements : List IssuerSignedItemBytes) (ordinal : Nat) (st : PlanState) :
    planItems cid' algorithm elements ordinal (st.relabel cid') =
      PlanState.relabel cid' <$> planItems cid algorithm elements ordinal st := by
  induction elements generalizing ordinal st with
  | nil => rfl
  | cons item elements ih =>
    rw [planItems, planItems]
    simp only [pushPlannedDigest_relabel cid cid', map_bind, bind_map_left, ih]

theorem planDecoys_relabel (fuel : Nat) (cid cid' : UInt64) (algorithm : DigestAlgorithm)
    (count ordinal : Nat) (usedIds : Finset DigestId) (st : PlanState) :
    (planDecoys fuel cid' algorithm count ordinal usedIds (st.relabel cid') : Prepare R PlanState) =
      PlanState.relabel cid' <$> planDecoys fuel cid algorithm count ordinal usedIds st := by
  induction count generalizing ordinal usedIds st with
  | zero => rw [planDecoys, planDecoys, map_pure]
  | succ count ih =>
    rw [planDecoys, planDecoys]
    simp only [pushPlannedDigest_relabel cid cid', ofResult_map, map_bind, bind_map_left, ih]

theorem planDigestNamespace_relabel (fuel : Nat) (cid cid' : UInt64)
    (elements : List IssuerSignedItemBytes) (algorithm : DigestAlgorithm)
    (enableDecoyDigests : Bool) (nextJobId : UInt64) (jobs : List DigestJob) :
    (planDigestNamespace fuel cid' elements algorithm enableDecoyDigests nextJobId
        (jobs.map (DigestJob.relabel cid')) : Prepare R PlanState) =
      PlanState.relabel cid' <$>
        planDigestNamespace fuel cid elements algorithm enableDecoyDigests nextJobId jobs := by
  have hst : (⟨nextJobId, jobs.map (DigestJob.relabel cid'), []⟩ : PlanState) =
      PlanState.relabel cid' ⟨nextJobId, jobs, []⟩ := rfl
  rw [planDigestNamespace, planDigestNamespace, hst]
  simp only [planItems_relabel cid cid', planDecoys_relabel fuel cid cid', ofResult_map, map_bind,
    bind_map_left]

theorem planNamespaces_relabel (fuel : Nat) (cid' : UInt64) (algorithm : DigestAlgorithm)
    (enableDecoyDigests : Bool) (entries : List (String × NonEmptyVec IssuerSignedItemBytes))
    (nextJobId : UInt64) (plan : MdocDigestPlan) :
    (planNamespaces fuel algorithm enableDecoyDigests entries nextJobId (plan.relabel cid') :
        Prepare R MdocDigestPlan) =
      MdocDigestPlan.relabel cid' <$>
        planNamespaces fuel algorithm enableDecoyDigests entries nextJobId plan := by
  induction entries generalizing nextJobId plan with
  | nil => rw [planNamespaces, planNamespaces, map_pure]
  | cons entry entries ih =>
    obtain ⟨name, elements⟩ := entry
    have hns := planDigestNamespace_relabel (R := R) fuel plan.credentialId cid' elements.toList
      algorithm enableDecoyDigests nextJobId plan.jobs
    rw [planNamespaces, planNamespaces, map_bind]
    show (planDigestNamespace fuel cid' elements.toList algorithm enableDecoyDigests nextJobId
      (plan.jobs.map (DigestJob.relabel cid')) >>= _) = _
    rw [hns, bind_map_left]
    congr 1
    funext st
    rw [← ih]
    congr 1
    simp [MdocDigestPlan.relabel, PlanState.relabel, PlannedMdocNamespace.relabel]

/-- **Planning under a credential id is planning under id 0, relabelled: it reads the generator
in the same way.** -/
theorem planDigestNamespacesForCredential_relabel (fuel : Nat) (credentialId : UInt64)
    (namespaces : IssuerNamespaces) (algorithm : DigestAlgorithm) (enableDecoyDigests : Bool) :
    (planDigestNamespacesForCredential fuel credentialId namespaces algorithm
        enableDecoyDigests : Prepare R MdocDigestPlan) =
      MdocDigestPlan.relabel credentialId <$>
        planDigestNamespaces fuel namespaces algorithm enableDecoyDigests :=
  planNamespaces_relabel fuel credentialId algorithm enableDecoyDigests namespaces.toMap.toList 0
    ⟨MDOC_CREDENTIAL_ID, [], []⟩

end

/-! ## the two paths, split after planning -/

section
variable {R : Type} [RngCore R] [Ciborium] [Rfc3339] [Coset] [Sha2]

/-- the credentials one after another, under credential id 0, with the serial executor -/
def prepareSequentially (fuel : Nat) (batch : List ValidatedMdocBatchItem) :
    Prepare R (List PreparedMdoc) :=
  batch.mapM fun item =>
    prepareWithValidatedInputs fuel item.docType item.namespaces item.validityInfo
      item.digestAlgorithm item.deviceKeyInfo item.signatureAlgorithm item.enableDecoyDigests
      serialDigestExecutor

/-- the drawing part of the single path, for an item of a batch -/
def planSingle (fuel : Nat) (item : ValidatedMdocBatchItem) :
    Prepare R (PlannedMdocBatchItem × MdocDigestPlan) := do
  let issuerNamespaces ← toIssuerNamespaces fuel item.namespaces
  let digestPlan ← planDigestNamespaces fuel issuerNamespaces item.digestAlgorithm
    item.enableDecoyDigests
  pure (item.planned issuerNamespaces, digestPlan)

/-- the rest of the single path, which reads no randomness -/
def finishSingle (planned : PlannedMdocBatchItem × MdocDigestPlan) : Except String PreparedMdoc := do
  let results ← runExecutor serialDigestExecutor planned.2.jobs
  let valueDigests ← assembleDigestNamespaces planned.2 results
  finishBatchItem planned.1 valueDigests

/-- the rest of the batch path -/
def finishBatch (executor : DigestExecutor) (planned : List (PlannedMdocBatchItem × MdocDigestPlan)) :
    Except String (List PreparedMdocBatchItem) := do
  let _ ← jobCount (planned.map Prod.snd) 0
  let results ← runExecutor executor ((planned.map Prod.snd).flatMap (·.jobs))
  let valueDigests ← assembleReorderedDigestBatches (planned.map Prod.snd) results
  if valueDigests.length ≠ (planned.map Prod.fst).length then
    .error "mdoc digest batch omitted a planned credential"
  else ((planned.map Prod.fst).zip valueDigests).mapM fun (item, valueDigests) => do
    let preparedMdoc ← finishBatchItem item valueDigests
    .ok ⟨item.credentialId, preparedMdoc⟩

/-- a plan of the single path, relabelled for the batch -/
def relabelPlanned (planned : PlannedMdocBatchItem × MdocDigestPlan) :
    PlannedMdocBatchItem × MdocDigestPlan :=
  (planned.1, planned.2.relabel planned.1.credentialId)

theorem planBatchItem_relabel (fuel : Nat) (item : ValidatedMdocBatchItem) :
    (planBatchItem fuel item : Prepare R _) = relabelPlanned <$> planSingle fuel item := by
  rw [planBatchItem, planSingle, map_bind]
  congr 1
  funext issued
  rw [planDigestNamespacesForCredential_relabel, bind_map_left, map_bind]
  congr 1

theorem prepareSingle_split (fuel : Nat) (item : ValidatedMdocBatchItem) :
    (prepareWithValidatedInputs fuel item.docType item.namespaces item.validityInfo
        item.digestAlgorithm item.deviceKeyInfo item.signatureAlgorithm item.enableDecoyDigests
        serialDigestExecutor : Prepare R PreparedMdoc) =
      planSingle fuel item >>= fun planned => ofResult (finishSingle planned) := by
  rw [prepareWithValidatedInputs, planSingle]
  simp only [finishSingle, ofResult_bind, bind_assoc, pure_bind]
  rfl

theorem prepareBatch_split (fuel : Nat) (batch : List ValidatedMdocBatchItem)
    (executor : DigestExecutor) :
    (prepareBatchWithValidatedInputs fuel batch executor : Prepare R _) =
      (batch.mapM (planSingle fuel)) >>= fun planned =>
        ofResult (finishBatch executor (planned.map relabelPlanned)) := by
  rw [prepareBatchWithValidatedInputs,
    mapM_map_hom batch fun item _ => planBatchItem_relabel fuel item, bind_map_left]
  congr 1
  funext planned
  rw [finishBatch]
  simp only [ofResult_bind]
  congr 1
  funext _
  congr 1
  funext results
  congr 1
  funext maps
  split <;> rfl

/-- **A loop whose steps end without randomness: all the drawing, then all the rest.** -/
theorem run_mapM_ofResult {α β γ : Type} {f : α → Prepare R β} {g : β → Except String γ}
    {l : List α} {r r' : R} {cs : List γ} :
    (l.mapM fun a => f a >>= fun b => ofResult (g b)).run r = .ok (cs, r') ↔
      ∃ bs, (l.mapM f).run r = .ok (bs, r') ∧ bs.mapM g = .ok cs := by
  induction l generalizing r r' cs with
  | nil =>
    simp only [List.mapM_nil, run_pure_ok]
    constructor
    · intro ⟨hcs, hr⟩
      exact ⟨[], ⟨rfl, hr⟩, hcs ▸ rfl⟩
    · intro ⟨bs, ⟨hbs, hr⟩, hg⟩
      subst hbs
      exact ⟨(Except.ok.inj hg).symm, hr⟩
  | cons a l ih =>
    simp only [List.mapM_cons, run_bind_ok, run_pure_ok, run_ofResult_ok, ih]
    constructor
    · intro ⟨c, t, ⟨b, t', hb, hc, ht⟩, cs', t'', ⟨bs, hbs, hcs'⟩, hcs, hr⟩
      subst hcs ht hr
      refine ⟨b :: bs, ⟨b, _, hb, bs, _, hbs, rfl, rfl⟩, ?_⟩
      rw [List.mapM_cons, hc, hcs']
      rfl
    · intro ⟨bs', ⟨b, t, hb, bs, t', hbs, hbs', hr⟩, hg⟩
      subst hbs' hr
      rw [List.mapM_cons] at hg
      cases hc : g b with
      | error e =>
        rw [hc] at hg
        cases hg
      | ok c =>
        cases hcs : bs.mapM g with
        | error e =>
          rw [hc, hcs] at hg
          cases hg
        | ok cs' =>
          rw [hc, hcs] at hg
          cases hg
          exact ⟨c, _, ⟨b, _, hb, hc, rfl⟩, cs', _, ⟨bs, hbs, hcs⟩, rfl, rfl⟩

/-! ## finishing -/

theorem jobCount_eq (plans : List MdocDigestPlan) {count : Nat} (h : count < 2 ^ 64) :
    jobCount plans count =
      if count + (plans.map (·.jobs.length)).sum < 2 ^ 64 then
        .ok (count + (plans.map (·.jobs.length)).sum)
      else .error "too many mdoc digest jobs in batch" := by
  induction plans generalizing count with
  | nil =>
    show Except.ok count = if count + 0 < 2 ^ 64 then .ok (count + 0) else _
    rw [Nat.add_zero, if_pos h]
  | cons plan plans ih =>
    rw [jobCount, List.map_cons, List.sum_cons]
    by_cases hp : count + plan.jobs.length < 2 ^ 64
    · rw [if_pos hp, ih hp, Nat.add_assoc]
    · rw [if_neg hp, if_neg (by omega)]

/-- a loop that pairs each result with something it reads off the element -/
theorem mapM_zipWith {α β γ : Type} (k : α → β → γ) (g : α → Except String β) (l : List α) :
    (l.mapM fun a => do let b ← g a; .ok (k a b)) = (List.zipWith k l ·) <$> l.mapM g := by
  induction l with
  | nil => rfl
  | cons a l ih =>
    rw [List.mapM_cons, List.mapM_cons, ih]
    cases hg : g a with
    | error e => rfl
    | ok b =>
      cases l.mapM g with
      | error e => rfl
      | ok bs => rfl

theorem jobs_length_planFrom (credentialId : UInt64) (algorithm : DigestAlgorithm)
    (cs : List (String × Commitment)) :
    (planFrom credentialId algorithm cs).jobs.length = commitCount cs := by
  have h := congrArg List.length (allJobsFrom_identity credentialId algorithm 0 cs)
  rw [List.length_map, identitiesFrom, List.length_map, List.length_range'] at h
  exact h

/-- the number of digests in the security objects of prepared credentials -/
def digestCount (mdocs : List PreparedMdoc) : Nat :=
  (mdocs.map fun m => (m.mso.valueDigests.toList.map fun e => e.2.size).sum).sum

theorem commitIds_size {algorithm : DigestAlgorithm} {c : Commitment}
    (hnd : (c.map Prod.fst).Nodup) : (commitIds algorithm c).size = c.length := by
  have hnd' : ((c.map fun e => (e.1, (⟨hash algorithm e.2⟩ : ByteStr))).map Prod.fst).Nodup := by
    rw [List.map_map]
    exact hnd
  rw [← Std.ExtTreeMap.length_toList, commitIds, (BTreeMap.toList_ofList_perm hnd').length_eq,
    List.length_map]

theorem commitMap_count (algorithm : DigestAlgorithm) {cs : List (String × Commitment)}
    (hcs : Plannable cs) :
    ((commitMap algorithm cs).toList.map fun e => e.2.size).sum = commitCount cs := by
  have hnd : ((cs.map fun e => (e.1, commitIds algorithm e.2)).map Prod.fst).Nodup := by
    rw [List.map_map]
    exact hcs.names_distinct
  rw [commitMap, ((BTreeMap.toList_ofList_perm hnd).map _).sum_nat, List.map_map, commitCount]
  congr 1
  exact List.map_congr_left fun e he => commitIds_size (hcs.ids_distinct e he)

/-- an issued credential with what it commits to -/
structure Committed where
  item : PlannedMdocBatchItem
  commitments : List (String × Commitment)
  plannable : Plannable commitments

/-- the plan of the single path -/
def Committed.single (c : Committed) : PlannedMdocBatchItem × MdocDigestPlan :=
  (c.item, planFrom MDOC_CREDENTIAL_ID c.item.digestAlgorithm c.commitments)

/-- the plan of the batch path -/
def Committed.plan (c : Committed) : MdocDigestPlan :=
  planFrom c.item.credentialId c.item.digestAlgorithm c.commitments

def Committed.table (c : Committed) : BTreeMap String DigestIds :=
  commitMap c.item.digestAlgorithm c.commitments

def Committed.finish (c : Committed) : Except String PreparedMdoc :=
  finishBatchItem c.item c.table

theorem Committed.relabel_single (c : Committed) :
    relabelPlanned c.single = (c.item, c.plan) := by
  rw [relabelPlanned, single, planFrom_relabel]
  rfl

theorem planSingle_returns (fuel : Nat) (item : ValidatedMdocBatchItem) :
    Returns (planSingle fuel item : Prepare R _) fun planned =>
      ∃ c : Committed, planned = c.single ∧ c.item.credentialId = item.credentialId := by
  rw [planSingle]
  refine Returns.bind (toIssuerNamespaces_returns fuel item.namespaces) fun issued hissued => ?_
  refine Returns.bind (planDigestNamespacesForCredential_returns fuel _ _ _ _) ?_
  intro plan ⟨cs, hcs, hfits, hplan⟩
  have hids := distinctIds_of_issues hissued.1 hissued.2
  exact Returns.pure
    ⟨⟨item.planned issued, cs, CommitsEntry.plannable hids hcs hfits⟩, by rw [hplan]; rfl, rfl⟩

/-- what the drawing of the whole batch leaves -/
theorem planSingles_eq {batch : List ValidatedMdocBatchItem}
    {planned : List (PlannedMdocBatchItem × MdocDigestPlan)}
    (h : List.Forall₂ (fun item planned => ∃ c : Committed, planned = c.single ∧
      c.item.credentialId = item.credentialId) batch planned) :
    ∃ committed : List Committed, planned = committed.map Committed.single ∧
      (committed.map fun c => c.item.credentialId) =
        batch.map ValidatedMdocBatchItem.credentialId := by
  induction h with
  | nil => exact ⟨[], rfl, rfl⟩
  | cons h _ ih =>
    obtain ⟨c, hc, hid⟩ := h
    obtain ⟨cs, hcs, hids⟩ := ih
    exact ⟨c :: cs, by rw [List.map_cons, hc, hcs], by rw [List.map_cons, List.map_cons, hid, hids]⟩

theorem finishSingle_committed (c : Committed) : finishSingle c.single = c.finish := by
  have h := assembleDigestNamespaces_serial MDOC_CREDENTIAL_ID c.item.digestAlgorithm c.plannable
  show (assembleDigestNamespaces _ _ >>= fun valueDigests => finishBatchItem _ valueDigests) = _
  rw [show assembleDigestNamespaces c.single.2 (c.single.2.jobs.map executeDigestJob) =
    .ok c.table from h]
  rfl

/-- **One executor call for the whole batch restores the digest table of every credential.** -/
theorem assembleBatch_committed {committed : List Committed} {results : List DigestResult}
    (hids : (committed.map fun c => c.item.credentialId).Nodup)
    (hresults : results.Perm
      (((committed.map Committed.plan).flatMap (·.jobs)).map executeDigestJob)) :
    assembleReorderedDigestBatches (committed.map Committed.plan) results =
      .ok (committed.map Committed.table) := by
  have hcred : ((committed.map Committed.plan).map MdocDigestPlan.credentialId).Nodup := by
    rw [List.map_map]
    exact hids
  have hwf : ∀ plan ∈ committed.map Committed.plan, plan.WellFormed := by
    intro plan hplan
    obtain ⟨c, -, hc⟩ := List.mem_map.mp hplan
    rw [← hc]
    exact planFrom_wellFormed _ _ c.plannable
  have hexact : ResultsExact (committed.map Committed.plan) results := by
    rw [ResultsExact, ← map_executeDigestJob_shape]
    exact hresults.map _
  have hnd : (results.map DigestResult.identity).Nodup := by
    rw [(hresults.map DigestResult.identity).nodup_iff, map_executeDigestJob_identity]
    exact jobs_identity_nodup hcred hwf
  refine assembleReorderedDigestBatches_ok.mpr ⟨hcred, hwf, hexact, ?_⟩
  rw [List.map_map]
  refine List.map_congr_left fun c hc => ?_
  refine (planFrom_valueDigests (hashesJobs_of_mem hnd fun job hjob => ?_)).symm
  refine hresults.mem_iff.mpr (List.mem_map.mpr ⟨job, List.mem_flatMap.mpr ?_, rfl⟩)
  exact ⟨c.plan, List.mem_map.mpr ⟨c, hc, rfl⟩, hjob⟩

/-- **What happens after planning: each credential is finished from its own digest table, and
the ids are put beside.** -/
theorem finishBatch_eq {executor : DigestExecutor} (hx : Conforming executor)
    {committed : List Committed} (hids : (committed.map fun c => c.item.credentialId).Nodup)
    {out : List PreparedMdocBatchItem} :
    finishBatch executor ((committed.map Committed.single).map relabelPlanned) = .ok out ↔
      ∃ mdocs, committed.mapM Committed.finish = .ok mdocs ∧
        out = List.zipWith PreparedMdocBatchItem.mk
          (committed.map fun c => c.item.credentialId) mdocs ∧
        (committed.map fun c => commitCount c.commitments).sum < 2 ^ 64 := by
  have hpairs : (committed.map Committed.single).map relabelPlanned =
      committed.map fun c => (c.item, c.plan) := by
    rw [List.map_map]
    exact List.map_congr_left fun c _ => c.relabel_single
  have hplans : (committed.map fun c => (c.item, c.plan)).map Prod.snd =
      committed.map Committed.plan := by
    rw [List.map_map]
    rfl
  have hitems : (committed.map fun c => (c.item, c.plan)).map Prod.fst =
      committed.map Committed.item := by
    rw [List.map_map]
    rfl
  have hcount : ((committed.map Committed.plan).map (·.jobs.length)) =
      committed.map fun c => commitCount c.commitments := by
    rw [List.map_map]
    exact List.map_congr_left fun c _ => jobs_length_planFrom _ _ _
  obtain ⟨results, hrun, hperm⟩ := hx ((committed.map Committed.plan).flatMap (·.jobs))
  have htail : (((committed.map Committed.item).zip (committed.map Committed.table)).mapM
      fun (item, valueDigests) => do
        let preparedMdoc ← finishBatchItem item valueDigests
        (.ok ⟨item.credentialId, preparedMdoc⟩ : Except String PreparedMdocBatchItem)) =
      (List.zipWith PreparedMdocBatchItem.mk (committed.map fun c => c.item.credentialId) ·) <$>
        committed.mapM Committed.finish := by
    rw [List.zip_map', List.mapM_map]
    simp only [List.zipWith_map_left]
    exact mapM_zipWith _ Committed.finish committed
  have hrest (n : Nat) (hn : jobCount (committed.map Committed.plan) 0 = .ok n) :
      finishBatch executor ((committed.map Committed.single).map relabelPlanned) =
        (List.zipWith PreparedMdocBatchItem.mk (committed.map fun c => c.item.credentialId) ·) <$>
          committed.mapM Committed.finish := by
    rw [finishBatch, hpairs, hplans, hitems, hn, runExecutor, hrun, ← htail]
    show (assembleReorderedDigestBatches (committed.map Committed.plan) results >>= _) = _
    rw [assembleBatch_committed hids hperm]
    show (if _ then _ else _) = _
    rw [if_neg (by simp)]
  have hn := jobCount_eq (committed.map Committed.plan) (by decide : 0 < 2 ^ 64)
  rw [hcount, Nat.zero_add] at hn
  by_cases hfits : (committed.map fun c => commitCount c.commitments).sum < 2 ^ 64
  · rw [hrest _ (hn.trans (if_pos hfits))]
    cases hm : committed.mapM Committed.finish with
    | error e =>
      constructor
      · intro h
        cases h
      · intro ⟨_, h, _⟩
        cases h
    | ok mdocs =>
      constructor
      · intro h
        exact ⟨mdocs, rfl, (Except.ok.inj h).symm, hfits⟩
      · intro ⟨mdocs', h, hout, _⟩
        cases h
        rw [hout]
        rfl
  · rw [finishBatch, hpairs, hplans, hn, if_neg hfits]
    constructor
    · intro h
      cases h
    · intro ⟨_, _, _, h⟩
      exact absurd h hfits

/-! ## batch and sequence -/

theorem validateMdocBatchItem_id {item : MdocBatchItem} {v : ValidatedMdocBatchItem}
    (h : validateMdocBatchItem item = .ok v) : v.credentialId = item.credentialId := by
  unfold validateMdocBatchItem at h
  simp only [bind, Except.bind] at h
  repeat' split at h
  all_goals cases h
  all_goals rfl

theorem validateMdocBatchFrom_ids {credentialIds : Finset UInt64} {batch : List MdocBatchItem}
    {validated : List ValidatedMdocBatchItem}
    (h : validateMdocBatchFrom credentialIds batch = .ok validated) :
    (validated.map ValidatedMdocBatchItem.credentialId).Nodup ∧
      ∀ v ∈ validated, v.credentialId ∉ credentialIds := by
  induction batch generalizing credentialIds validated with
  | nil =>
    cases h
    exact ⟨List.nodup_nil, fun v hv => by cases hv⟩
  | cons item batch ih =>
    rw [validateMdocBatchFrom] at h
    by_cases hin : item.credentialId ∈ credentialIds
    · rw [if_pos hin] at h
      cases h
    rw [if_neg hin] at h
    cases hv : validateMdocBatchItem item with
    | error e =>
      rw [hv] at h
      cases h
    | ok v =>
      cases hr : validateMdocBatchFrom (insert item.credentialId credentialIds) batch with
      | error e =>
        rw [hv] at h
        simp only [bind, Except.bind, hr] at h
        cases h
      | ok rest =>
        rw [hv] at h
        simp only [bind, Except.bind, hr] at h
        cases h
        obtain ⟨hnd, hfresh⟩ := ih hr
        have hid : v.credentialId = item.credentialId := validateMdocBatchItem_id hv
        refine ⟨?_, fun w hw => ?_⟩
        · rw [List.map_cons, List.nodup_cons, hid]
          refine ⟨fun hmem => ?_, hnd⟩
          obtain ⟨w, hw, heq⟩ := List.mem_map.mp hmem
          exact hfresh w hw (heq ▸ Finset.mem_insert_self _ _)
        · rcases List.mem_cons.mp hw with hw | hw
          · rw [hw, hid]
            exact hin
          · exact fun hmem => hfresh w hw (Finset.mem_insert_of_mem hmem)

theorem eq_zipWith_mk_iff {ids : List UInt64} {mdocs : List PreparedMdoc}
    {out : List PreparedMdocBatchItem} (hlen : ids.length = mdocs.length) :
    out = List.zipWith PreparedMdocBatchItem.mk ids mdocs ↔
      out.map PreparedMdocBatchItem.credentialId = ids ∧
        out.map PreparedMdocBatchItem.preparedMdoc = mdocs := by
  induction ids generalizing mdocs out with
  | nil =>
    obtain rfl : mdocs = [] := List.length_eq_zero_iff.mp hlen.symm
    simp
  | cons id ids ih =>
    cases mdocs with
    | nil => cases hlen
    | cons m mdocs =>
      cases out with
      | nil => simp
      | cons o out =>
        obtain ⟨oid, om⟩ := o
        have hih := @ih mdocs out (Nat.succ.inj hlen)
        simp [hih, and_assoc, and_left_comm]

theorem mapM_length {α β ε : Type} {f : α → Except ε β} {l : List α} {bs : List β}
    (h : l.mapM f = .ok bs) : bs.length = l.length := by
  induction l generalizing bs with
  | nil =>
    cases h
    rfl
  | cons a l ih =>
    rw [List.mapM_cons] at h
    cases ha : f a with
    | error e =>
      rw [ha] at h
      cases h
    | ok b =>
      cases hl : l.mapM f with
      | error e =>
        rw [ha, hl] at h
        cases h
      | ok bs' =>
        rw [ha, hl] at h
        cases h
        rw [List.length_cons, List.length_cons, ih hl]

theorem digestCount_finish {committed : List Committed} {mdocs : List PreparedMdoc}
    (h : committed.mapM Committed.finish = .ok mdocs) :
    digestCount mdocs = (committed.map fun c => commitCount c.commitments).sum := by
  induction committed generalizing mdocs with
  | nil =>
    cases h
    rfl
  | cons c committed ih =>
    rw [List.mapM_cons] at h
    cases hc : c.finish with
    | error e =>
      rw [hc] at h
      cases h
    | ok m =>
      cases hm : committed.mapM Committed.finish with
      | error e =>
        rw [hc, hm] at h
        cases h
      | ok ms =>
        rw [hc, hm] at h
        cases h
        have htable : m.mso.valueDigests = c.table := by
          rw [(finishPreparation_ok hc).2.2]
        have hcount := commitMap_count c.item.digestAlgorithm c.plannable
        rw [digestCount, List.map_cons, List.sum_cons, List.map_cons, List.sum_cons, ← ih hm,
          htable, Committed.table, hcount]
        rfl

theorem prepareSequentially_run (fuel : Nat) (validated : List ValidatedMdocBatchItem) (rng rng' : R)
    (mdocs : List PreparedMdoc) :
    (prepareSequentially fuel validated).run rng = .ok (mdocs, rng') ↔
      ∃ planned, (validated.mapM (planSingle fuel)).run rng = .ok (planned, rng') ∧
        planned.mapM finishSingle = .ok mdocs := by
  rw [← run_mapM_ofResult, prepareSequentially]
  simp only [prepareSingle_split]

/-- what was planned for a batch is committed -/
theorem planned_committed {fuel : Nat} {validated : List ValidatedMdocBatchItem} {rng rng' : R}
    {planned : List (PlannedMdocBatchItem × MdocDigestPlan)}
    (h : (validated.mapM (planSingle fuel)).run rng = .ok (planned, rng')) :
    ∃ committed : List Committed, planned = committed.map Committed.single ∧
      (committed.map fun c => c.item.credentialId) =
        validated.map ValidatedMdocBatchItem.credentialId :=
  planSingles_eq (Returns.mapM validated (fun item _ => planSingle_returns fuel item) _ _ _ h)

theorem mapM_finishSingle (committed : List Committed) (mdocs : List PreparedMdoc) :
    (committed.map Committed.single).mapM finishSingle = .ok mdocs ↔
      committed.mapM Committed.finish = .ok mdocs := by
  have hfun : finishSingle ∘ Committed.single = Committed.finish := funext finishSingle_committed
  rw [List.mapM_map, hfun]

/-- what the batch returns, the sequential path returns -/
theorem sequential_of_batch {executor : DigestExecutor} (hx : Conforming executor)
    {batch : List MdocBatchItem} {validated : List ValidatedMdocBatchItem}
    (hv : validateMdocBatch batch = .ok validated) {fuel : Nat} {rng rng' : R}
    {out : List PreparedMdocBatchItem}
    (h : (prepareBatchWithValidatedInputs fuel validated executor).run rng = .ok (out, rng')) :
    (prepareSequentially fuel validated).run rng =
        .ok (out.map PreparedMdocBatchItem.preparedMdoc, rng') ∧
      out.map PreparedMdocBatchItem.credentialId =
        validated.map ValidatedMdocBatchItem.credentialId ∧
      digestCount (out.map PreparedMdocBatchItem.preparedMdoc) < 2 ^ 64 := by
  have hids := (validateMdocBatchFrom_ids hv).1
  rw [prepareBatch_split, run_bind_ok] at h
  simp only [run_ofResult_ok] at h
  rw [prepareSequentially_run]
  obtain ⟨planned, rng₁, hplan, hout, hrng⟩ := h
  subst hrng
  obtain ⟨committed, hp, hcid⟩ := planned_committed hplan
  subst hp
  obtain ⟨mdocs, hm, hzip, hfits⟩ := (finishBatch_eq hx (hcid ▸ hids)).mp hout
  have hlen : (committed.map fun c => c.item.credentialId).length = mdocs.length := by
    rw [List.length_map, mapM_length hm]
  obtain ⟨hcids, hmdocs⟩ := (eq_zipWith_mk_iff hlen).mp hzip
  rw [hmdocs, digestCount_finish hm]
  exact ⟨⟨_, hplan, (mapM_finishSingle committed mdocs).mpr hm⟩, hcids.trans hcid, hfits⟩

/-- **Batch issuance equals sequential issuance: for every conforming executor the batch returns,
under the caller's ids and in the caller's order, exactly the credentials of the sequential
path, and leaves the generator where the sequential path leaves it, unless its jobs do not fit
a `usize`.** -/
theorem prepareBatch_eq_sequential {executor : DigestExecutor} (hx : Conforming executor)
    {batch : List MdocBatchItem} {validated : List ValidatedMdocBatchItem}
    (hv : validateMdocBatch batch = .ok validated) (fuel : Nat) (rng rng' : R)
    (out : List PreparedMdocBatchItem) :
    (prepareBatchWithValidatedInputs fuel validated executor).run rng = .ok (out, rng') ↔
      (prepareSequentially fuel validated).run rng =
        .ok (out.map PreparedMdocBatchItem.preparedMdoc, rng') ∧
      out.map PreparedMdocBatchItem.credentialId =
        validated.map ValidatedMdocBatchItem.credentialId ∧
      digestCount (out.map PreparedMdocBatchItem.preparedMdoc) < 2 ^ 64 := by
  have hids := (validateMdocBatchFrom_ids hv).1
  constructor
  · exact sequential_of_batch hx hv
  · intro ⟨hseq, hcids, hfits⟩
    rw [prepareSequentially_run] at hseq
    rw [prepareBatch_split, run_bind_ok]
    simp only [run_ofResult_ok]
    obtain ⟨planned, hplan, hm⟩ := hseq
    obtain ⟨committed, hp, hcid⟩ := planned_committed hplan
    subst hp
    rw [mapM_finishSingle] at hm
    refine ⟨_, rng', hplan, (finishBatch_eq hx (hcid ▸ hids)).mpr ⟨_, hm, ?_, ?_⟩, rfl⟩
    · refine (eq_zipWith_mk_iff ?_).mpr ⟨hcids.trans hcid.symm, rfl⟩
      rw [List.length_map, mapM_length hm]
    · rw [← digestCount_finish hm]
      exact hfits

end

/-! ### a batch of two, with an executor that answers in reverse -/

namespace Sample

open scoped Reference

def namespaces : Namespaces :=
  (∅ : Namespaces).insert "org.iso.18013.5.1"
    (((∅ : BTreeMap String Value).insert "family_name" (.text "Doe")).insert "age_over_18"
      (.bool true))

def validityInfo : ValidityInfo := ⟨⟨0, 0, 0⟩, ⟨0, 0, 0⟩, ⟨86400, 0, 0⟩, none⟩

def item (credentialId : UInt64) (digestAlgorithm : DigestAlgorithm) : MdocBatchItem where
  credentialId := credentialId
  builder :=
    { docType := some "org.iso.18013.5.1.mDL"
      namespaces := some namespaces
      validityInfo := some validityInfo
      digestAlgorithm := some digestAlgorithm
      deviceKeyInfo := some ⟨.EC2 .P256 [1] (.signBit true), none, none⟩
      enableDecoyDigests := none }
  signatureAlgorithm := .ES256

def validatedItem (credentialId : UInt64) (digestAlgorithm : DigestAlgorithm) :
    ValidatedMdocBatchItem where
  credentialId := credentialId
  docType := "org.iso.18013.5.1.mDL"
  namespaces := namespaces
  validityInfo := validityInfo
  digestAlgorithm := digestAlgorithm
  deviceKeyInfo := ⟨.EC2 .P256 [1] (.signBit true), none, none⟩
  signatureAlgorithm := .ES256
  enableDecoyDigests := true

def validated : List ValidatedMdocBatchItem := [validatedItem 7 .SHA256, validatedItem 3 .SHA384]

def reversed : DigestExecutor := fun jobs => some (jobs.map executeDigestJob).reverse

theorem conforming_reversed : Conforming reversed :=
  fun _ => ⟨_, rfl, List.reverse_perm _⟩

theorem validateMdocBatch_ok :
    validateMdocBatch [item 7 .SHA256, item 3 .SHA384] = .ok validated := by
  rfl

end Sample

open scoped Reference in
theorem prepareBatch_eq_sequential_two :
    ∃ out rng', (prepareBatchWithValidatedInputs 3 Sample.validated Sample.reversed).run
        (⟨0⟩ : Reference.Counter) = .ok (out, rng') ∧
      (prepareSequentially 3 Sample.validated).run ⟨0⟩ =
        .ok (out.map PreparedMdocBatchItem.preparedMdoc, rng') ∧
      out.map PreparedMdocBatchItem.credentialId = [7, 3] := by
  have hok : ((prepareBatchWithValidatedInputs 3 Sample.validated Sample.reversed).run
      (⟨0⟩ : Reference.Counter)).isOk := by
    decide +kernel
  cases hrun : (prepareBatchWithValidatedInputs 3 Sample.validated Sample.reversed).run
      (⟨0⟩ : Reference.Counter) with
  | error e =>
    rw [hrun] at hok
    cases hok
  | ok p =>
    obtain ⟨out, rng'⟩ := p
    obtain ⟨hseq, hids, -⟩ := (prepareBatch_eq_sequential Sample.conforming_reversed
      Sample.validateMdocBatch_ok 3 _ rng' out).mp hrun
    exact ⟨out, rng', rfl, hseq, hids⟩

end Isomdl
