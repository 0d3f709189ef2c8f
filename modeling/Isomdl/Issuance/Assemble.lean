import Isomdl.Issuance.Plan

/-!
# Restoring digests from executor results (`issuance/mdoc.rs`)

An executor's results are put back under the digest ids of the plan.
`assembleOrderedDigestNamespaces` walks plan, jobs and results in step;
`assembleReorderedDigestBatches` looks the results up by identity, for several plans at once.
Both fail closed, with the error texts of the code.
-/

namespace Isomdl

/-! ## the reordered path -/

/-- the results by identity, and whether an identity occurs twice -/
def collectResults (results : List DigestResult) : BTreeMap Identity DigestResult × Bool :=
  results.foldl (fun (byIdentity, duplicate) result =>
    (byIdentity.insert result.identity result, duplicate || byIdentity.contains result.identity))
    (∅, false)

/-- the maps the loop over the jobs of a plan works on -/
structure JobState where
  resultsByIdentity : BTreeMap Identity DigestResult
  expectedIdentities : Finset Identity
  digestsByIdentity : BTreeMap Identity Bytes

/-- the loop over the jobs of a plan -/
def takeJobs (credentialId : UInt64) : List DigestJob → JobState → Except String JobState
  | [], st => .ok st
  | job :: jobs, st =>
    if job.credentialId ≠ credentialId then
      .error "mdoc digest plan contains inconsistent credential identity"
    else if job.identity ∈ st.expectedIdentities then
      .error "mdoc digest plan contains duplicate job identity"
    else
      match st.resultsByIdentity[job.identity]? with
      | none => .error "digest executor omitted a planned result"
      | some result =>
        if result.ordinal ≠ job.ordinal then
          .error "digest executor changed result identity metadata"
        else if result.digest.length ≠ digestLength job.algorithm then
          .error "digest executor returned an invalid digest length"
        else
          takeJobs credentialId jobs
            { resultsByIdentity := st.resultsByIdentity.erase job.identity
              expectedIdentities := insert job.identity st.expectedIdentities
              digestsByIdentity := st.digestsByIdentity.insert job.identity result.digest }

/-- the loop over the digests of a namespace -/
def takeDigests (credentialId : UInt64) :
    List PlannedMdocDigest → BTreeMap Identity Bytes → DigestIds →
      Except String (BTreeMap Identity Bytes × DigestIds)
  | [], digestsByIdentity, digestIds => .ok (digestsByIdentity, digestIds)
  | planned :: digests, digestsByIdentity, digestIds =>
    if planned.credentialId ≠ credentialId then
      .error "mdoc digest plan contains inconsistent credential identity"
    else
      match digestsByIdentity[planned.identity]? with
      | none => .error "mdoc digest plan references an unknown job"
      | some digest =>
        if planned.digestId ∈ digestIds then
          .error "mdoc digest plan contains a duplicate digest ID within a namespace"
        else
          takeDigests credentialId digests (digestsByIdentity.erase planned.identity)
            (digestIds.insert planned.digestId ⟨digest⟩)

/-- the loop over the namespaces of a plan -/
def takeNamespaces (credentialId : UInt64) :
    List PlannedMdocNamespace → BTreeMap Identity Bytes → BTreeMap String DigestIds →
      Except String (BTreeMap Identity Bytes × BTreeMap String DigestIds)
  | [], digestsByIdentity, namespaces => .ok (digestsByIdentity, namespaces)
  | ns :: rest, digestsByIdentity, namespaces => do
    let (digestsByIdentity, digestIds) ← takeDigests credentialId ns.digests digestsByIdentity ∅
    if ns.name ∈ namespaces then
      .error "mdoc digest plan contains a duplicate namespace"
    else takeNamespaces credentialId rest digestsByIdentity (namespaces.insert ns.name digestIds)

/-- one turn of the loop over the plans -/
def takePlan (plan : MdocDigestPlan) (resultsByIdentity : BTreeMap Identity DigestResult) :
    Except String (BTreeMap Identity DigestResult × BTreeMap String DigestIds) := do
  let st ← takeJobs plan.credentialId plan.jobs ⟨resultsByIdentity, ∅, ∅⟩
  let (digestsByIdentity, namespaces) ←
    takeNamespaces plan.credentialId plan.namespaces st.digestsByIdentity ∅
  if digestsByIdentity.isEmpty then .ok (st.resultsByIdentity, namespaces)
  else .error "mdoc digest plan contains an unreferenced job"

/-- the loop over the plans -/
def takePlans : List MdocDigestPlan → Finset UInt64 → BTreeMap Identity DigestResult →
    Except String (List (BTreeMap String DigestIds) × BTreeMap Identity DigestResult)
  | [], _, resultsByIdentity => .ok ([], resultsByIdentity)
  | plan :: plans, credentialIds, resultsByIdentity =>
    if plan.credentialId ∈ credentialIds then
      .error "mdoc digest batch contains duplicate credential identity"
    else do
      let (resultsByIdentity, namespaces) ← takePlan plan resultsByIdentity
      let (batches, resultsByIdentity) ←
        takePlans plans (insert plan.credentialId credentialIds) resultsByIdentity
      .ok (namespaces :: batches, resultsByIdentity)

/-- `assemble_reordered_digest_batches` -/
def assembleReorderedDigestBatches (plans : List MdocDigestPlan) (results : List DigestResult) :
    Except String (List (BTreeMap String DigestIds)) :=
  let (resultsByIdentity, duplicateResult) := collectResults results
  if duplicateResult then .error "digest executor returned duplicate result identity"
  else do
    let (batches, resultsByIdentity) ← takePlans plans ∅ resultsByIdentity
    if resultsByIdentity.isEmpty then .ok batches
    else .error "digest executor returned an unexpected result"

/-- `assemble_reordered_digest_namespaces` -/
def assembleReorderedDigestNamespaces (plan : MdocDigestPlan) (results : List DigestResult) :
    Except String (BTreeMap String DigestIds) := do
  let batches ← assembleReorderedDigestBatches [plan] results
  match batches.getLast? with
  | some namespaces => .ok namespaces
  | none => .error "mdoc digest batch omitted a planned credential"

/-! ## the ordered path -/

/-- what the two iterators of the ordered path have left, and the job id it expects next -/
structure OrderedState where
  jobs : List DigestJob
  results : List DigestResult
  expectedJobId : UInt64

/-- the loop over the digests of a namespace -/
def stepDigests (credentialId : UInt64) :
    List PlannedMdocDigest → OrderedState → DigestIds → Except String (OrderedState × DigestIds)
  | [], st, digestIds => .ok (st, digestIds)
  | planned :: digests, st, digestIds =>
    match st.jobs with
    | [] => .error "mdoc digest plan references an unknown job"
    | job :: jobs =>
      match st.results with
      | [] => .error "digest executor omitted a planned result"
      | result :: results =>
        if job.credentialId ≠ credentialId then
          .error "mdoc digest plan contains inconsistent credential identity"
        else if job.jobId ≠ st.expectedJobId then
          .error "mdoc digest plan contains duplicate job identity"
        else if planned.credentialId ≠ credentialId then
          .error "mdoc digest plan contains inconsistent credential identity"
        else if planned.identity ≠ job.identity then
          .error "mdoc digest plan references an unknown job"
        else if result.identity ≠ job.identity then
          .error "digest executor changed result identity metadata"
        else if result.ordinal ≠ job.ordinal then
          .error "digest executor changed result identity metadata"
        else if result.digest.length ≠ digestLength job.algorithm then
          .error "digest executor returned an invalid digest length"
        else if planned.digestId ∈ digestIds then
          .error "mdoc digest plan contains a duplicate digest ID within a namespace"
        else
          match st.expectedJobId.checkedAdd 1 with
          | none => .error "too many mdoc digest jobs"
          | some expectedJobId =>
            stepDigests credentialId digests ⟨jobs, results, expectedJobId⟩
              (digestIds.insert planned.digestId ⟨result.digest⟩)

/-- the loop over the namespaces -/
def stepNamespaces (credentialId : UInt64) :
    List PlannedMdocNamespace → OrderedState → BTreeMap String DigestIds →
      Except String (OrderedState × BTreeMap String DigestIds)
  | [], st, namespaces => .ok (st, namespaces)
  | ns :: rest, st, namespaces => do
    let (st, digestIds) ← stepDigests credentialId ns.digests st ∅
    if ns.name ∈ namespaces then
      .error "mdoc digest plan contains a duplicate namespace"
    else stepNamespaces credentialId rest st (namespaces.insert ns.name digestIds)

/-- `assemble_ordered_digest_namespaces` -/
def assembleOrderedDigestNamespaces (plan : MdocDigestPlan) (results : List DigestResult) :
    Except String (BTreeMap String DigestIds) := do
  let (st, namespaces) ← stepNamespaces plan.credentialId plan.namespaces ⟨plan.jobs, results, 0⟩ ∅
  if ¬ st.jobs.isEmpty then .error "mdoc digest plan contains an unreferenced job"
  else if ¬ st.results.isEmpty then .error "digest executor returned an unexpected result"
  else .ok namespaces

/-! ## the entry of the single path -/

/-- `results_follow_plan_order` -/
def resultsFollowPlanOrder (plan : MdocDigestPlan) (results : List DigestResult) : Bool :=
  results.length == plan.jobs.length &&
    (plan.jobs.zip results).all fun (job, result) =>
      job.identity == result.identity && job.ordinal == result.ordinal

/-- `assemble_digest_namespaces` -/
def assembleDigestNamespaces (plan : MdocDigestPlan) (results : List DigestResult) :
    Except String (BTreeMap String DigestIds) :=
  if resultsFollowPlanOrder plan results then assembleOrderedDigestNamespaces plan results
  else assembleReorderedDigestNamespaces plan results

end Isomdl
