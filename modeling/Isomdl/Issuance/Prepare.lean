import Isomdl.Issuance.Assemble

/-!
# Preparing credentials for signing (`issuance/mdoc.rs`)

The single path `prepareWithValidatedInputs` prepares one credential; the batch path
`prepareBatchWithValidatedInputs` plans all of them, submits all digest jobs at once and
restores the results by identity.  Both end in `finishPreparation`.
-/

namespace Isomdl

open Cbor

structure PreparedMdoc where
  docType : String
  mso : Mso
  namespaces : IssuerNamespaces
  preparedSig : PreparedCoseSign1

def PreparedMdoc.signaturePayload (m : PreparedMdoc) : Bytes := m.preparedSig.signaturePayload

/-! ## validation -/

structure Builder where
  docType : Option String
  namespaces : Option Namespaces
  validityInfo : Option ValidityInfo
  digestAlgorithm : Option DigestAlgorithm
  deviceKeyInfo : Option DeviceKeyInfo
  enableDecoyDigests : Option Bool

structure MdocBatchItem where
  credentialId : UInt64
  builder : Builder
  signatureAlgorithm : Algorithm

structure ValidatedMdocBatchItem where
  credentialId : UInt64
  docType : String
  namespaces : Namespaces
  validityInfo : ValidityInfo
  digestAlgorithm : DigestAlgorithm
  deviceKeyInfo : DeviceKeyInfo
  signatureAlgorithm : Algorithm
  enableDecoyDigests : Bool

/-- `validate_namespace_shape` -/
def validateNamespaceShape (namespaces : Namespaces) : Except String Unit :=
  if namespaces.isEmpty then .error "at least one namespace required"
  else if namespaces.toList.any fun e => e.2.isEmpty then
    .error "at least one element required in each namespace"
  else .ok ()

def requireParameter {α : Type} (x : Option α) (name : String) : Except String α :=
  match x with
  | some a => .ok a
  | none => .error ("missing parameter: '" ++ name ++ "'")

/-- the checks `validate_mdoc_batch` makes on one item, after its identity -/
def validateMdocBatchItem (item : MdocBatchItem) : Except String ValidatedMdocBatchItem := do
  let docType ← requireParameter item.builder.docType "doc_type"
  let namespaces ← requireParameter item.builder.namespaces "namespaces"
  let validityInfo ← requireParameter item.builder.validityInfo "validity_info"
  let digestAlgorithm ← requireParameter item.builder.digestAlgorithm "digest_algorithm"
  let deviceKeyInfo ← requireParameter item.builder.deviceKeyInfo "device_key_info"
  let enableDecoyDigests := item.builder.enableDecoyDigests.getD true
  match deviceKeyInfo.keyAuthorizations with
  | some authorizations => authorizations.validate
  | none => .ok ()
  validateNamespaceShape namespaces
  .ok
    { credentialId := item.credentialId
      docType, namespaces, validityInfo, digestAlgorithm, deviceKeyInfo, enableDecoyDigests
      signatureAlgorithm := item.signatureAlgorithm }

/-- the loop of `validate_mdoc_batch`, with the credential ids seen so far -/
def validateMdocBatchFrom : Finset UInt64 → List MdocBatchItem →
    Except String (List ValidatedMdocBatchItem)
  | _, [] => .ok []
  | credentialIds, item :: batch =>
    if item.credentialId ∈ credentialIds then
      .error "mdoc preparation batch contains duplicate credential identity"
    else do
      let validated ← validateMdocBatchItem item
      let rest ← validateMdocBatchFrom (insert item.credentialId credentialIds) batch
      .ok (validated :: rest)

/-- `validate_mdoc_batch` -/
def validateMdocBatch (batch : List MdocBatchItem) : Except String (List ValidatedMdocBatchItem) :=
  validateMdocBatchFrom ∅ batch

/-! ## finishing -/

section
variable [Ciborium] [Rfc3339] [Coset]

/-- `finish_preparation` -/
def finishPreparation (docType : String) (issuerNamespaces : IssuerNamespaces)
    (validityInfo : ValidityInfo) (digestAlgorithm : DigestAlgorithm)
    (deviceKeyInfo : DeviceKeyInfo) (signatureAlgorithm : Algorithm)
    (valueDigests : BTreeMap String DigestIds) : Except String PreparedMdoc := do
  let mso : Mso :=
    { version := "1.0", digestAlgorithm, valueDigests, deviceKeyInfo, docType, validityInfo }
  let mso24 ← (Tag24.new mso).mapError Tag24.Error.display
  let msoBytes ← (toVec mso24).mapError CborError.display
  let coseSign1 : CoseSign1 :=
    { protectedHeader := ⟨none, Header.ofAlgorithm signatureAlgorithm⟩
      unprotected := Header.empty
      payload := some msoBytes
      signature := [] }
  let preparedSig ←
    (PreparedCoseSign1.new coseSign1 none none false).mapError Sign1.Error.display
  .ok { docType, namespaces := issuerNamespaces, mso, preparedSig }

end

/-! ## the single path -/

section
variable {R : Type} [RngCore R] [Ciborium] [Rfc3339] [Coset]

/-- `digest_executor.execute(..)?` -/
def runExecutor (executor : DigestExecutor) (jobs : List DigestJob) :
    Except String (List DigestResult) :=
  match executor jobs with
  | some results => .ok results
  | none => .error digestExecutionError

/-- `prepare_with_validated_inputs_rng_and_digest_executor` -/
def prepareWithValidatedInputs (fuel : Nat) (docType : String) (namespaces : Namespaces)
    (validityInfo : ValidityInfo) (digestAlgorithm : DigestAlgorithm)
    (deviceKeyInfo : DeviceKeyInfo) (signatureAlgorithm : Algorithm) (enableDecoyDigests : Bool)
    (executor : DigestExecutor) : Prepare R PreparedMdoc := do
  let issuerNamespaces ← toIssuerNamespaces fuel namespaces
  let digestPlan ← planDigestNamespaces fuel issuerNamespaces digestAlgorithm enableDecoyDigests
  let digestResults ← ofResult (runExecutor executor digestPlan.jobs)
  let valueDigests ← ofResult (assembleDigestNamespaces digestPlan digestResults)
  ofResult (finishPreparation docType issuerNamespaces validityInfo digestAlgorithm deviceKeyInfo
    signatureAlgorithm valueDigests)

/-! ## the batch path -/

structure PreparedMdocBatchItem where
  credentialId : UInt64
  preparedMdoc : PreparedMdoc

structure PlannedMdocBatchItem where
  credentialId : UInt64
  docType : String
  issuerNamespaces : IssuerNamespaces
  validityInfo : ValidityInfo
  digestAlgorithm : DigestAlgorithm
  deviceKeyInfo : DeviceKeyInfo
  signatureAlgorithm : Algorithm

/-- the item that is finished after planning -/
def ValidatedMdocBatchItem.planned (item : ValidatedMdocBatchItem)
    (issuerNamespaces : IssuerNamespaces) : PlannedMdocBatchItem :=
  { credentialId := item.credentialId
    docType := item.docType
    issuerNamespaces
    validityInfo := item.validityInfo
    digestAlgorithm := item.digestAlgorithm
    deviceKeyInfo := item.deviceKeyInfo
    signatureAlgorithm := item.signatureAlgorithm }

/-- one turn of the planning loop -/
def planBatchItem (fuel : Nat) (item : ValidatedMdocBatchItem) :
    Prepare R (PlannedMdocBatchItem × MdocDigestPlan) := do
  let issuerNamespaces ← toIssuerNamespaces fuel item.namespaces
  let digestPlan ← planDigestNamespacesForCredential fuel item.credentialId issuerNamespaces
    item.digestAlgorithm item.enableDecoyDigests
  pure (item.planned issuerNamespaces, digestPlan)

/-- the `usize` job count of a batch -/
def jobCount : List MdocDigestPlan → Nat → Except String Nat
  | [], count => .ok count
  | plan :: plans, count =>
    if count + plan.jobs.length < 2 ^ 64 then jobCount plans (count + plan.jobs.length)
    else .error "too many mdoc digest jobs in batch"

def finishBatchItem (item : PlannedMdocBatchItem) (valueDigests : BTreeMap String DigestIds) :
    Except String PreparedMdoc :=
  finishPreparation item.docType item.issuerNamespaces item.validityInfo item.digestAlgorithm
    item.deviceKeyInfo item.signatureAlgorithm valueDigests

/-- `prepare_batch_with_validated_inputs_rng_and_digest_executor` -/
def prepareBatchWithValidatedInputs (fuel : Nat) (batch : List ValidatedMdocBatchItem)
    (executor : DigestExecutor) : Prepare R (List PreparedMdocBatchItem) := do
  let planned ← batch.mapM (planBatchItem fuel)
  let plannedItems := planned.map Prod.fst
  let digestPlans := planned.map Prod.snd
  let _ ← ofResult (jobCount digestPlans 0)
  let results ← ofResult (runExecutor executor (digestPlans.flatMap (·.jobs)))
  let valueDigests ← ofResult (assembleReorderedDigestBatches digestPlans results)
  if valueDigests.length ≠ plannedItems.length then
    throw (.error "mdoc digest batch omitted a planned credential")
  else
    ofResult ((plannedItems.zip valueDigests).mapM fun (item, valueDigests) => do
      let preparedMdoc ← finishBatchItem item valueDigests
      .ok ⟨item.credentialId, preparedMdoc⟩)

end

end Isomdl
