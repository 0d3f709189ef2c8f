import Isomdl.Decoding
import Isomdl.Definitions.KeyAuthorizations
import Isomdl.Issuance.Batch
import Isomdl.Lib.Traced

/-!
# A batch is validated before anything else (`issuance/mdoc.rs`)

`prepareBatchWithDigestExecutorAndRngFactory` is the whole batch call, and
`Builder.prepareWithDigestExecutor` the whole single call, with a record of when they make their
generator and call their executor.  Both refuse a builder for the same reasons, and the batch
looks at all of its items before it makes the generator.

* `Builder.prepare_eq`          the single call, by the check that the batch makes on an item;
* `validateMdocBatchItem_ok`    which builders pass it;
* `validateMdocBatch_error`     the error of a batch is that of its first offence;
* `observed_batch_result`       the record changes nothing: the batch is that of `Prepare`;
* `prepareBatch_allOrNothing`   the whole batch call.
-/

set_option linter.unusedSectionVars false

namespace Isomdl

open Cbor

/-! ## calls on record -/

/-- what a preparation calls of what its caller supplies -/
inductive Call where
  | makeRng
  | execute (jobs : List DigestJob)
  deriving DecidableEq, Repr

abbrev Observed := Traced Call Halt

namespace Observed

variable {R α : Type}

def check (x : Except String α) : Observed α := Traced.ofExcept (x.mapError Halt.error)

/-- `make_rng()` -/
def makeRng (f : Unit → R) : Observed R := Traced.call .makeRng (.ok (f ()))

/-- `digest_executor.execute(&jobs)?` -/
def execute (executor : DigestExecutor) (jobs : List DigestJob) : Observed (List DigestResult) :=
  Traced.call (.execute jobs) ((runExecutor executor jobs).mapError Halt.error)

/-- a step that reads the generator and calls nothing -/
def draws (m : Prepare R α) (rng : R) : Observed α := Traced.ofExcept (Prod.fst <$> m.run rng)

theorem check_ok (a : α) : check (.ok a) = Traced.ofExcept (.ok a) := rfl

theorem check_error (message : String) :
    (check (.error message) : Observed α) = Traced.ofExcept (.error (.error message)) := rfl

theorem check_bind {β : Type} (x : Except String α) (f : α → Except String β) :
    check (x >>= f) = check x >>= fun a => check (f a) := by
  cases x with
  | error e => rfl
  | ok a => exact (Traced.ok_bind a fun a => check (f a)).symm

end Observed

open Observed

/-! ## the two calls -/

/-- `authorizations.validate()?`, where there are any -/
def DeviceKeyInfo.validateAuthorizations (i : DeviceKeyInfo) : Except String Unit :=
  match i.keyAuthorizations with
  | some authorizations => authorizations.validate
  | none => .ok ()

section
variable {R : Type} [RngCore R] [Ciborium] [Rfc3339] [Coset]

/-- `prepare_with_validated_inputs_rng_and_digest_executor`, for the parameters of an item -/
def observeWithValidatedInputs (fuel : Nat) (item : ValidatedMdocBatchItem)
    (rng : R) (executor : DigestExecutor) : Observed PreparedMdoc := do
  let planned ← draws (planSingle fuel item) rng
  let digestResults ← execute executor planned.2.jobs
  let valueDigests ← check (assembleDigestNamespaces planned.2 digestResults)
  check (finishBatchItem planned.1 valueDigests)

/-- `Mdoc::prepare_with_digest_executor`, for the parameters of an item -/
def Mdoc.prepareWithDigestExecutor (fuel : Nat) (item : ValidatedMdocBatchItem)
    (executor : DigestExecutor) (makeRng : Unit → R) : Observed PreparedMdoc := do
  check item.deviceKeyInfo.validateAuthorizations
  check (validateNamespaceShape item.namespaces)
  let rng ← Observed.makeRng makeRng
  observeWithValidatedInputs fuel item rng executor

/-- `Builder::prepare_with_digest_executor`; the credential id is that of the single path -/
def Builder.prepareWithDigestExecutor (fuel : Nat) (b : Builder) (signatureAlgorithm : Algorithm)
    (executor : DigestExecutor) (makeRng : Unit → R) : Observed PreparedMdoc := do
  let docType ← check (requireParameter b.docType "doc_type")
  let namespaces ← check (requireParameter b.namespaces "namespaces")
  let validityInfo ← check (requireParameter b.validityInfo "validity_info")
  let digestAlgorithm ← check (requireParameter b.digestAlgorithm "digest_algorithm")
  let deviceKeyInfo ← check (requireParameter b.deviceKeyInfo "device_key_info")
  let enableDecoyDigests := b.enableDecoyDigests.getD true
  Mdoc.prepareWithDigestExecutor fuel
    { credentialId := MDOC_CREDENTIAL_ID
      docType, namespaces, validityInfo, digestAlgorithm, deviceKeyInfo, signatureAlgorithm
      enableDecoyDigests }
    executor makeRng

/-- planning the credentials of a batch, and counting their jobs -/
def planBatch (fuel : Nat) (batch : List ValidatedMdocBatchItem) :
    Prepare R (List (PlannedMdocBatchItem × MdocDigestPlan)) := do
  let planned ← batch.mapM (planBatchItem fuel)
  let _ ← ofResult (jobCount (planned.map Prod.snd) 0)
  pure planned

/-- the jobs of all credentials, in caller order -/
def batchJobs (planned : List (PlannedMdocBatchItem × MdocDigestPlan)) : List DigestJob :=
  (planned.map Prod.snd).flatMap (·.jobs)

/-- what is left once the executor has answered -/
def restoreBatch (planned : List (PlannedMdocBatchItem × MdocDigestPlan))
    (results : List DigestResult) : Except String (List PreparedMdocBatchItem) := do
  let valueDigests ← assembleReorderedDigestBatches (planned.map Prod.snd) results
  if valueDigests.length ≠ (planned.map Prod.fst).length then
    .error "mdoc digest batch omitted a planned credential"
  else ((planned.map Prod.fst).zip valueDigests).mapM fun (item, valueDigests) => do
    let preparedMdoc ← finishBatchItem item valueDigests
    .ok ⟨item.credentialId, preparedMdoc⟩

/-- `prepare_batch_with_validated_inputs_rng_and_digest_executor` -/
def observeBatchWithValidatedInputs (fuel : Nat) (batch : List ValidatedMdocBatchItem) (rng : R)
    (executor : DigestExecutor) : Observed (List PreparedMdocBatchItem) := do
  let planned ← draws (planBatch fuel batch) rng
  let results ← execute executor (batchJobs planned)
  check (restoreBatch planned results)

/-- `prepare_batch_with_digest_executor_and_rng_factory` -/
def prepareBatchWithDigestExecutorAndRngFactory (fuel : Nat) (batch : List MdocBatchItem)
    (executor : DigestExecutor) (makeRng : Unit → R) : Observed (List PreparedMdocBatchItem) := do
  let batch ← check (validateMdocBatch batch)
  if batch.isEmpty then pure []
  else do
    let rng ← Observed.makeRng makeRng
    observeBatchWithValidatedInputs fuel batch rng executor

/-! ## the record changes nothing -/

theorem run_bind {α β : Type} (m : Prepare R α) (f : α → Prepare R β) (rng : R) :
    (m >>= f).run rng = m.run rng >>= fun p => (f p.1).run p.2 := rfl

theorem prepareBatch_eq_planBatch (fuel : Nat) (batch : List ValidatedMdocBatchItem)
    (executor : DigestExecutor) :
    (prepareBatchWithValidatedInputs fuel batch executor : Prepare R _) =
      planBatch fuel batch >>= fun planned =>
        ofResult (runExecutor executor (batchJobs planned) >>= restoreBatch planned) := by
  rw [prepareBatchWithValidatedInputs, planBatch]
  simp only [bind_assoc, pure_bind, ofResult_bind, restoreBatch, batchJobs]
  congr 1
  funext planned
  congr 1
  funext _
  congr 1
  funext results
  congr 1
  funext maps
  split <;> rfl

/-- what follows the executor, without the record -/
theorem result_execute_bind {α : Type} (executor : DigestExecutor) (jobs : List DigestJob)
    (f : List DigestResult → Except String α) :
    (execute executor jobs >>= fun results => check (f results)).result =
      (runExecutor executor jobs >>= f).mapError Halt.error := by
  rw [Traced.result_bind]
  show ((runExecutor executor jobs).mapError Halt.error >>= _) = _
  cases runExecutor executor jobs with
  | error e => rfl
  | ok results => rfl

/-- a computation that reads its generator first, without the record -/
theorem result_draws_bind {α β : Type} {m : Prepare R α} {g : α → Observed β}
    {f : α → Except String β} (h : ∀ a, (g a).result = (f a).mapError Halt.error) (rng : R) :
    (draws m rng >>= g).result = Prod.fst <$> (m >>= fun a => ofResult (f a)).run rng := by
  rw [run_bind, Traced.result_bind]
  show (Prod.fst <$> m.run rng >>= _) = _
  cases m.run rng with
  | error halt => rfl
  | ok p =>
    show (g p.1).result = Prod.fst <$> (ofResult (f p.1)).run p.2
    rw [h]
    cases f p.1 with
    | error e => rfl
    | ok b => rfl

/-- **The batch with its calls on record returns what the batch returns.** -/
theorem observed_batch_result (fuel : Nat) (batch : List ValidatedMdocBatchItem) (rng : R)
    (executor : DigestExecutor) :
    (observeBatchWithValidatedInputs fuel batch rng executor).result =
      Prod.fst <$> (prepareBatchWithValidatedInputs fuel batch executor).run rng := by
  rw [prepareBatch_eq_planBatch, observeBatchWithValidatedInputs]
  exact result_draws_bind (fun planned => result_execute_bind executor _ _) rng

/-- **So does the single path.** -/
theorem observed_single_result (fuel : Nat) (item : ValidatedMdocBatchItem) (rng : R)
    (executor : DigestExecutor) :
    (observeWithValidatedInputs fuel item rng executor).result =
      Prod.fst <$> (prepareWithValidatedInputs fuel item.docType item.namespaces item.validityInfo
        item.digestAlgorithm item.deviceKeyInfo item.signatureAlgorithm item.enableDecoyDigests
        executor).run rng := by
  have hsplit : (prepareWithValidatedInputs fuel item.docType item.namespaces item.validityInfo
      item.digestAlgorithm item.deviceKeyInfo item.signatureAlgorithm item.enableDecoyDigests
      executor : Prepare R _) = planSingle fuel item >>= fun planned =>
        ofResult (runExecutor executor planned.2.jobs >>= fun digestResults =>
          assembleDigestNamespaces planned.2 digestResults >>= finishBatchItem planned.1) := by
    rw [prepareWithValidatedInputs, planSingle]
    simp only [ofResult_bind, bind_assoc, pure_bind]
    rfl
  rw [hsplit, observeWithValidatedInputs]
  refine result_draws_bind (fun planned => ?_) rng
  simp only [← check_bind]
  exact result_execute_bind executor _ _

/-! ## two validations, one verdict -/

/-- the checks of the batch on an item, one after another -/
theorem validateMdocBatchItem_eq (item : MdocBatchItem) :
    validateMdocBatchItem item = (do
      let docType ← requireParameter item.builder.docType "doc_type"
      let namespaces ← requireParameter item.builder.namespaces "namespaces"
      let validityInfo ← requireParameter item.builder.validityInfo "validity_info"
      let digestAlgorithm ← requireParameter item.builder.digestAlgorithm "digest_algorithm"
      let deviceKeyInfo ← requireParameter item.builder.deviceKeyInfo "device_key_info"
      deviceKeyInfo.validateAuthorizations
      validateNamespaceShape namespaces
      .ok
        { credentialId := item.credentialId
          docType, namespaces, validityInfo, digestAlgorithm, deviceKeyInfo
          enableDecoyDigests := item.builder.enableDecoyDigests.getD true
          signatureAlgorithm := item.signatureAlgorithm }) := by
  rw [validateMdocBatchItem]
  congr 1
  funext docType
  congr 1
  funext namespaces
  congr 1
  funext validityInfo
  congr 1
  funext digestAlgorithm
  congr 1
  funext deviceKeyInfo
  rw [DeviceKeyInfo.validateAuthorizations]
  cases deviceKeyInfo.keyAuthorizations with
  | none => rfl
  | some authorizations => rfl

/-- **The single call makes the same checks as the batch, and then its generator.** -/
theorem Builder.prepare_eq (fuel : Nat) (item : MdocBatchItem) (executor : DigestExecutor)
    (makeRng : Unit → R) :
    item.builder.prepareWithDigestExecutor fuel item.signatureAlgorithm executor makeRng =
      check (validateMdocBatchItem item) >>= fun validated =>
        Observed.makeRng makeRng >>= fun rng =>
          observeWithValidatedInputs fuel { validated with credentialId := MDOC_CREDENTIAL_ID }
            rng executor := by
  rw [validateMdocBatchItem_eq, Builder.prepareWithDigestExecutor]
  simp only [Mdoc.prepareWithDigestExecutor, check_bind, check_ok, bind_assoc, Traced.ok_bind]

/-- the single call refuses an item's builder before it calls anything -/
def RefusesBuilder (fuel : Nat) (executor : DigestExecutor) (makeRng : Unit → R)
    (item : MdocBatchItem) (message : String) : Prop :=
  item.builder.prepareWithDigestExecutor fuel item.signatureAlgorithm executor makeRng =
    ⟨[], .error (.error message)⟩

theorem refusesBuilder_iff {fuel : Nat} {executor : DigestExecutor} {makeRng : Unit → R}
    {item : MdocBatchItem} {message : String} :
    RefusesBuilder fuel executor makeRng item message ↔
      validateMdocBatchItem item = .error message := by
  rw [RefusesBuilder, Builder.prepare_eq]
  cases validateMdocBatchItem item with
  | error e => simp [check_error, Traced.error_bind]
  | ok validated =>
    rw [check_ok, Traced.ok_bind, Observed.makeRng, Traced.call_bind]
    simp

/-- what a builder needs -/
structure Builder.Valid (b : Builder) : Prop where
  docType : b.docType ≠ none
  namespaces : ∃ namespaces : Namespaces, b.namespaces = some namespaces ∧ namespaces ≠ ∅ ∧
    ∀ (name : String) (elements : BTreeMap String Value),
      namespaces[name]? = some elements → elements ≠ ∅
  validityInfo : b.validityInfo ≠ none
  digestAlgorithm : b.digestAlgorithm ≠ none
  deviceKeyInfo : ∃ deviceKeyInfo, b.deviceKeyInfo = some deviceKeyInfo ∧
    ∀ authorizations, deviceKeyInfo.keyAuthorizations = some authorizations →
      authorizations.Disjoint

theorem validateNamespaceShape_ok {namespaces : Namespaces} :
    validateNamespaceShape namespaces = .ok () ↔
      namespaces ≠ ∅ ∧ ∀ (name : String) (elements : BTreeMap String Value),
        namespaces[name]? = some elements → elements ≠ ∅ := by
  rw [validateNamespaceShape]
  by_cases hempty : namespaces.isEmpty = true
  · rw [if_pos hempty]
    simp [Std.ExtTreeMap.isEmpty_iff.mp hempty]
  · rw [if_neg hempty]
    have hne : namespaces ≠ ∅ := fun h => hempty (Std.ExtTreeMap.isEmpty_iff.mpr h)
    by_cases hany : (namespaces.toList.any fun e => e.2.isEmpty) = true
    · rw [if_pos hany]
      obtain ⟨⟨name, elements⟩, hmem, he⟩ := List.any_eq_true.mp hany
      constructor
      · intro h
        cases h
      · rintro ⟨-, h⟩
        exact absurd (Std.ExtTreeMap.isEmpty_iff.mp he)
          (h name elements (BTreeMap.mem_toList.mp hmem))
    · rw [if_neg hany]
      refine ⟨fun _ => ⟨hne, fun name elements hlook he => hany ?_⟩, fun _ => rfl⟩
      exact List.any_eq_true.mpr
        ⟨(name, elements), BTreeMap.mem_toList.mpr hlook, Std.ExtTreeMap.isEmpty_iff.mpr he⟩

theorem requireParameter_ok {α : Type} {x : Option α} {name : String} {a : α} :
    requireParameter x name = .ok a ↔ x = some a := by
  cases x with
  | none => simp [requireParameter]
  | some b => simp [requireParameter]

theorem bind_ok_iff {ε α β : Type} {x : Except ε α} {f : α → Except ε β} {b : β} :
    x >>= f = .ok b ↔ ∃ a, x = .ok a ∧ f a = .ok b := by
  cases x with
  | error e => simp [bind, Except.bind]
  | ok a => simp [bind, Except.bind]

theorem DeviceKeyInfo.validateAuthorizations_ok {i : DeviceKeyInfo} :
    i.validateAuthorizations = .ok () ↔
      ∀ authorizations, i.keyAuthorizations = some authorizations → authorizations.Disjoint := by
  rw [validateAuthorizations]
  cases i.keyAuthorizations with
  | none => simp
  | some authorizations => simp [KeyAuthorizations.validate_eq_ok_iff]

/-- **The builders that pass.** -/
theorem validateMdocBatchItem_ok {item : MdocBatchItem} :
    (∃ validated, validateMdocBatchItem item = .ok validated) ↔ item.builder.Valid := by
  simp only [validateMdocBatchItem_eq, bind_ok_iff, requireParameter_ok]
  constructor
  · rintro ⟨_, docType, hd, namespaces, hn, validityInfo, hv, digestAlgorithm, ha, deviceKeyInfo, hk,
      _, hauth, _, hshape, -⟩
    exact
      { docType := by simp [hd]
        namespaces := ⟨namespaces, hn, validateNamespaceShape_ok.mp hshape⟩
        validityInfo := by simp [hv]
        digestAlgorithm := by simp [ha]
        deviceKeyInfo := ⟨deviceKeyInfo, hk, DeviceKeyInfo.validateAuthorizations_ok.mp hauth⟩ }
  · intro h
    obtain ⟨docType, hd⟩ := Option.ne_none_iff_exists'.mp h.docType
    obtain ⟨namespaces, hn, hshape⟩ := h.namespaces
    obtain ⟨validityInfo, hv⟩ := Option.ne_none_iff_exists'.mp h.validityInfo
    obtain ⟨digestAlgorithm, ha⟩ := Option.ne_none_iff_exists'.mp h.digestAlgorithm
    obtain ⟨deviceKeyInfo, hk, hauth⟩ := h.deviceKeyInfo
    exact ⟨_, docType, hd, namespaces, hn, validityInfo, hv, digestAlgorithm, ha, deviceKeyInfo, hk,
      (), DeviceKeyInfo.validateAuthorizations_ok.mpr hauth,
      (), validateNamespaceShape_ok.mpr hshape, rfl⟩

/-! ## the first offence -/

/-- the error text of a repeated credential identity -/
def duplicateIdentity : String := "mdoc preparation batch contains duplicate credential identity"

/-- why an item is refused after the items `earlier`: its id is taken, or else its builder is
refused as the single call refuses it -/
inductive Offends (fuel : Nat) (executor : DigestExecutor) (makeRng : Unit → R)
    (earlier : List MdocBatchItem) (item : MdocBatchItem) : String → Prop
  | duplicate (h : item.credentialId ∈ earlier.map MdocBatchItem.credentialId) :
    Offends fuel executor makeRng earlier item duplicateIdentity
  | builder {message : String} (hnew : item.credentialId ∉ earlier.map MdocBatchItem.credentialId)
    (h : RefusesBuilder fuel executor makeRng item message) :
    Offends fuel executor makeRng earlier item message

/-- the first item of a batch that offends, after the items `seen`, and its error -/
def FirstOffence (fuel : Nat) (executor : DigestExecutor) (makeRng : Unit → R)
    (seen batch : List MdocBatchItem) (message : String) : Prop :=
  ∃ earlier item later, batch = earlier ++ item :: later ∧
    (∀ before item' after, earlier = before ++ item' :: after →
      ∀ m, ¬ Offends fuel executor makeRng (seen ++ before) item' m) ∧
    Offends fuel executor makeRng (seen ++ earlier) item message

variable {fuel : Nat} {executor : DigestExecutor} {makeRng : Unit → R}

theorem offends_iff {earlier : List MdocBatchItem} {item : MdocBatchItem} {message : String} :
    Offends fuel executor makeRng earlier item message ↔
      if item.credentialId ∈ earlier.map MdocBatchItem.credentialId then message = duplicateIdentity
      else validateMdocBatchItem item = .error message := by
  by_cases hmem : item.credentialId ∈ earlier.map MdocBatchItem.credentialId
  · rw [if_pos hmem]
    constructor
    · intro h
      cases h with
      | duplicate _ => rfl
      | builder hnew _ => exact absurd hmem hnew
    · rintro rfl
      exact .duplicate hmem
  · have hrefuses : RefusesBuilder fuel executor makeRng item message ↔
        validateMdocBatchItem item = .error message := refusesBuilder_iff
    rw [if_neg hmem, ← hrefuses]
    constructor
    · intro h
      cases h with
      | duplicate h => exact absurd h hmem
      | builder _ h => exact h
    · exact .builder hmem

theorem exists_offends_iff {earlier : List MdocBatchItem} {item : MdocBatchItem} :
    (∃ message, Offends fuel executor makeRng earlier item message) ↔
      item.credentialId ∈ earlier.map MdocBatchItem.credentialId ∨ ¬ item.builder.Valid := by
  simp only [offends_iff, ← validateMdocBatchItem_ok]
  by_cases hmem : item.credentialId ∈ earlier.map MdocBatchItem.credentialId
  · simp [hmem]
  · simp only [hmem, false_or]
    cases validateMdocBatchItem item with
    | error e => simp
    | ok v => simp

theorem not_firstOffence_nil {seen : List MdocBatchItem} {message : String} :
    ¬ FirstOffence fuel executor makeRng seen [] message := by
  rintro ⟨earlier, item, later, hsplit, -⟩
  simp at hsplit

/-- the first offence of a batch is its first item's, or that of the rest -/
theorem firstOffence_cons {seen batch : List MdocBatchItem} {item : MdocBatchItem}
    {message : String} :
    FirstOffence fuel executor makeRng seen (item :: batch) message ↔
      Offends fuel executor makeRng seen item message ∨
        (∀ m, ¬ Offends fuel executor makeRng seen item m) ∧
          FirstOffence fuel executor makeRng (seen ++ [item]) batch message := by
  constructor
  · rintro ⟨earlier, item', later, hsplit, hbefore, hoff⟩
    cases earlier with
    | nil =>
      rw [List.nil_append, List.cons.injEq] at hsplit
      rw [hsplit.1]
      rw [List.append_nil] at hoff
      exact .inl hoff
    | cons first earlier =>
      rw [List.cons_append, List.cons.injEq] at hsplit
      obtain ⟨rfl, rfl⟩ := hsplit
      refine .inr ⟨?_, earlier, item', later, rfl, ?_, ?_⟩
      · have h := hbefore [] item earlier rfl
        rwa [List.append_nil] at h
      · rintro before item'' after rfl
        have h := hbefore (item :: before) item'' after rfl
        rwa [List.append_cons] at h
      · rwa [List.append_cons] at hoff
  · rintro (hoff | ⟨hfirst, earlier, item', later, rfl, hbefore, hoff⟩)
    · refine ⟨[], item, batch, rfl, ?_, by rwa [List.append_nil]⟩
      intro before item' after h
      simp at h
    · refine ⟨item :: earlier, item', later, rfl, ?_, by rwa [List.append_cons]⟩
      intro before item'' after h
      cases before with
      | nil =>
        rw [List.nil_append, List.cons.injEq] at h
        rw [List.append_nil, ← h.1]
        exact hfirst
      | cons first before =>
        rw [List.cons_append, List.cons.injEq] at h
        obtain ⟨rfl, rfl⟩ := h
        rw [List.append_cons]
        exact hbefore before item'' after rfl

/-- **The error of a batch is that of its first offence.** -/
theorem validateMdocBatchFrom_error {seen batch : List MdocBatchItem} {message : String} :
    validateMdocBatchFrom (seen.map MdocBatchItem.credentialId).toFinset batch = .error message ↔
      FirstOffence fuel executor makeRng seen batch message := by
  induction batch generalizing seen with
  | nil =>
    constructor
    · intro h
      cases h
    · intro h
      exact absurd h not_firstOffence_nil
  | cons item batch ih =>
    have hins : insert item.credentialId (seen.map MdocBatchItem.credentialId).toFinset =
        ((seen ++ [item]).map MdocBatchItem.credentialId).toFinset := by
      ext id
      simp
    rw [firstOffence_cons, ← ih, validateMdocBatchFrom, hins]
    simp only [offends_iff, List.mem_toFinset]
    by_cases hmem : item.credentialId ∈ seen.map MdocBatchItem.credentialId
    · rw [if_pos hmem]
      simp only [if_pos hmem]
      constructor
      · intro h
        cases h
        exact .inl rfl
      · rintro (rfl | ⟨h, -⟩)
        · rfl
        · exact absurd rfl (h duplicateIdentity)
    · rw [if_neg hmem]
      simp only [if_neg hmem]
      cases validateMdocBatchItem item with
      | error e => simp [bind, Except.bind]
      | ok v =>
        cases validateMdocBatchFrom ((seen ++ [item]).map MdocBatchItem.credentialId).toFinset
            batch with
        | error e => simp [bind, Except.bind]
        | ok rest => simp [bind, Except.bind]

theorem validateMdocBatch_error {batch : List MdocBatchItem} {message : String} :
    validateMdocBatch batch = .error message ↔
      FirstOffence fuel executor makeRng [] batch message := by
  have hfrom : validateMdocBatchFrom (([] : List MdocBatchItem).map
      MdocBatchItem.credentialId).toFinset batch = .error message ↔
      FirstOffence fuel executor makeRng [] batch message := validateMdocBatchFrom_error
  exact hfrom

theorem exists_firstOffence_iff {seen batch : List MdocBatchItem} :
    (∃ message, FirstOffence fuel executor makeRng seen batch message) ↔
      ∃ earlier item later, batch = earlier ++ item :: later ∧
        (item.credentialId ∈ (seen ++ earlier).map MdocBatchItem.credentialId ∨
          ¬ item.builder.Valid) := by
  constructor
  · rintro ⟨message, earlier, item, later, hsplit, -, hoff⟩
    exact ⟨earlier, item, later, hsplit, exists_offends_iff.mp ⟨message, hoff⟩⟩
  · intro h
    induction batch generalizing seen with
    | nil =>
      obtain ⟨earlier, item, later, hsplit, -⟩ := h
      simp at hsplit
    | cons first batch ih =>
      by_cases hfirst : ∃ m, Offends fuel executor makeRng seen first m
      · obtain ⟨m, hm⟩ := hfirst
        exact ⟨m, firstOffence_cons.mpr (.inl hm)⟩
      · obtain ⟨earlier, item, later, hsplit, hoff⟩ := h
        cases earlier with
        | nil =>
          rw [List.nil_append, List.cons.injEq] at hsplit
          rw [List.append_nil, ← hsplit.1] at hoff
          exact absurd (exists_offends_iff.mpr hoff) hfirst
        | cons first' earlier =>
          rw [List.cons_append, List.cons.injEq] at hsplit
          obtain ⟨rfl, rfl⟩ := hsplit
          rw [List.append_cons] at hoff
          obtain ⟨m, hm⟩ := ih ⟨earlier, item, later, rfl, hoff⟩
          exact ⟨m, firstOffence_cons.mpr (.inr ⟨fun m' h' => hfirst ⟨m', h'⟩, hm⟩)⟩

/-! ## the jobs of a batch -/

variable [Sha2]

theorem validateMdocBatchFrom_forall₂ {credentialIds : Finset UInt64}
    {batch : List MdocBatchItem} {validated : List ValidatedMdocBatchItem}
    (h : validateMdocBatchFrom credentialIds batch = .ok validated) :
    List.Forall₂ (fun item v => validateMdocBatchItem item = .ok v) batch validated := by
  induction batch generalizing credentialIds validated with
  | nil =>
    cases h
    exact .nil
  | cons item batch ih =>
    rw [validateMdocBatchFrom] at h
    split at h
    · cases h
    · obtain ⟨v, hv, h⟩ := bind_eq_ok h
      obtain ⟨rest, hrest, h⟩ := bind_eq_ok h
      cases h
      exact .cons hv (ih hrest)

/-- the plan of a credential: its jobs are under its id, with the algorithm of its builder, and
they are those of the builder's namespaces, in order -/
structure PlannedFor (item : MdocBatchItem) (planned : PlannedMdocBatchItem × MdocDigestPlan) :
    Prop where
  credentialId : planned.1.credentialId = item.credentialId
  labels : ∀ job ∈ planned.2.jobs, job.credentialId = item.credentialId ∧
    item.builder.digestAlgorithm = some job.algorithm
  jobs : ∃ (namespaces : Namespaces) (groups : List (List DigestJob)),
    item.builder.namespaces = some namespaces ∧ planned.2.jobs = groups.flatten ∧
    List.Forall₂ (fun entry jobs =>
      NamespaceJobs (item.builder.enableDecoyDigests.getD true) entry.2 jobs)
      namespaces.toList groups

theorem plannedFor_credentialIds {batch : List MdocBatchItem}
    {planned : List (PlannedMdocBatchItem × MdocDigestPlan)}
    (h : List.Forall₂ PlannedFor batch planned) :
    planned.map (·.1.credentialId) = batch.map MdocBatchItem.credentialId := by
  induction h with
  | nil => rfl
  | cons hp _ ih => rw [List.map_cons, List.map_cons, hp.credentialId, ih]

/-- an item that passes is planned from its builder -/
theorem planBatchItem_returns (fuel : Nat) {item : MdocBatchItem} {v : ValidatedMdocBatchItem}
    (hv : validateMdocBatchItem item = .ok v) :
    Returns (planBatchItem fuel v : Prepare R _) (PlannedFor item) := by
  rw [validateMdocBatchItem_eq] at hv
  simp only [bind_ok_iff, requireParameter_ok] at hv
  obtain ⟨docType, -, namespaces, hnamespaces, validityInfo, -, digestAlgorithm, halgorithm,
    deviceKeyInfo, -, -, -, -, -, hv⟩ := hv
  cases hv
  rw [planBatchItem]
  refine Returns.bind (toIssuerNamespaces_entries fuel _) fun issued hissued => ?_
  refine Returns.bind (planDigestNamespacesForCredential_returns fuel _ _ _ _) ?_
  rintro plan ⟨cs, hcs, -, rfl⟩
  obtain ⟨groups, hgroups, hjobs⟩ :=
    allJobsFrom_groups hissued hcs item.credentialId digestAlgorithm 0
  refine Returns.pure ⟨rfl, fun job hjob => ?_, namespaces, groups, hnamespaces, hgroups, hjobs⟩
  obtain ⟨hid, heq⟩ := mem_allJobsFrom hjob
  rw [heq]
  exact ⟨hid, halgorithm⟩

theorem planBatch_plannedFor {batch : List MdocBatchItem} {validated : List ValidatedMdocBatchItem}
    (hv : validateMdocBatch batch = .ok validated) {rng rng' : R}
    {planned : List (PlannedMdocBatchItem × MdocDigestPlan)}
    (h : (planBatch fuel validated).run rng = .ok (planned, rng')) :
    List.Forall₂ PlannedFor batch planned := by
  have hreturns : Returns (planBatch fuel validated : Prepare R _) fun planned =>
      List.Forall₂ PlannedFor batch planned := by
    rw [planBatch]
    refine Returns.bind (Returns.mapM_of_forall₂ (validateMdocBatchFrom_forall₂ hv)
      fun item v hitem => planBatchItem_returns fuel hitem) ?_
    intro planned hplanned
    exact Returns.bind (Returns.trivial _) fun _ _ => Returns.pure hplanned
  exact hreturns rng planned rng' h

theorem restoreBatch_credentialIds {planned : List (PlannedMdocBatchItem × MdocDigestPlan)}
    {results : List DigestResult} {items : List PreparedMdocBatchItem}
    (h : restoreBatch planned results = .ok items) :
    items.map PreparedMdocBatchItem.credentialId = planned.map (·.1.credentialId) := by
  obtain ⟨valueDigests, -, h⟩ := bind_eq_ok h
  split at h
  · cases h
  · next hlen =>
    have hids : ∀ (l : List (PlannedMdocBatchItem × BTreeMap String DigestIds))
        (out : List PreparedMdocBatchItem),
        List.Forall₂ (fun e o => (do
          let preparedMdoc ← finishBatchItem e.1 e.2
          .ok ⟨e.1.credentialId, preparedMdoc⟩ : Except String PreparedMdocBatchItem) = .ok o)
          l out → out.map PreparedMdocBatchItem.credentialId = l.map (·.1.credentialId) := by
      intro l out hall
      induction hall with
      | nil => rfl
      | cons he _ ih =>
        obtain ⟨m, -, he⟩ := bind_eq_ok he
        cases he
        rw [List.map_cons, List.map_cons, ih]
    have hfst := List.map_fst_zip (Nat.le_of_eq (not_not.mp hlen).symm)
    calc items.map PreparedMdocBatchItem.credentialId
        = (((planned.map Prod.fst).zip valueDigests).map Prod.fst).map
            PlannedMdocBatchItem.credentialId := by
          rw [hids _ _ (mapM_forall₂ h), List.map_map]
          rfl
      _ = planned.map (·.1.credentialId) := by
          rw [hfst, List.map_map]
          rfl

/-! ## the whole call -/

/-- the whole call, once its batch has passed -/
theorem prepareBatch_of_validated {batch : List MdocBatchItem}
    {validated : List ValidatedMdocBatchItem} (hv : validateMdocBatch batch = .ok validated)
    (hne : batch ≠ []) :
    prepareBatchWithDigestExecutorAndRngFactory fuel batch executor makeRng =
      Observed.makeRng makeRng >>= fun rng =>
        observeBatchWithValidatedInputs fuel validated rng executor := by
  rw [prepareBatchWithDigestExecutorAndRngFactory, hv, check_ok, Traced.ok_bind]
  have hlen := (validateMdocBatchFrom_forall₂ hv).length_eq
  rw [if_neg]
  intro hempty
  rw [List.isEmpty_iff] at hempty
  rw [hempty] at hlen
  exact hne (List.length_eq_zero_iff.mp hlen)

theorem restoreBatch_error {planned : List (PlannedMdocBatchItem × MdocDigestPlan)}
    {results : List DigestResult} {message : String}
    (h : assembleReorderedDigestBatches (planned.map Prod.snd) results = .error message) :
    restoreBatch planned results = .error message := by
  rw [restoreBatch, h]
  rfl

/-- the whole call, once its batch has been planned -/
theorem prepareBatch_of_planned {batch : List MdocBatchItem}
    {validated : List ValidatedMdocBatchItem} (hv : validateMdocBatch batch = .ok validated)
    (hne : batch ≠ []) {rng : R} {planned : List (PlannedMdocBatchItem × MdocDigestPlan)}
    (hplan : (planBatch fuel validated).run (makeRng ()) = .ok (planned, rng)) :
    prepareBatchWithDigestExecutorAndRngFactory fuel batch executor makeRng =
      ⟨[.makeRng, .execute (batchJobs planned)],
        (runExecutor executor (batchJobs planned) >>= restoreBatch planned).mapError .error⟩ := by
  have hdraws : draws (planBatch fuel validated) (makeRng ()) = Traced.ofExcept (.ok planned) := by
    rw [draws, hplan]
    rfl
  rw [prepareBatch_of_validated hv hne, Observed.makeRng, Traced.call_bind,
    observeBatchWithValidatedInputs, hdraws, Traced.ok_bind, execute]
  cases runExecutor executor (batchJobs planned) with
  | error e => rfl
  | ok results => rfl

theorem prepareBatch_of_unplanned {batch : List MdocBatchItem}
    {validated : List ValidatedMdocBatchItem} (hv : validateMdocBatch batch = .ok validated)
    (hne : batch ≠ []) {halt : Halt}
    (hplan : (planBatch fuel validated).run (makeRng ()) = .error halt) :
    prepareBatchWithDigestExecutorAndRngFactory fuel batch executor makeRng =
      ⟨[.makeRng], .error halt⟩ := by
  have hdraws : draws (planBatch fuel validated) (makeRng ()) = Traced.ofExcept (.error halt) := by
    rw [draws, hplan]
    rfl
  rw [prepareBatch_of_validated hv hne, Observed.makeRng, Traced.call_bind,
    observeBatchWithValidatedInputs, hdraws, Traced.error_bind]

theorem prepareBatch_of_error {batch : List MdocBatchItem} {message : String}
    (hv : validateMdocBatch batch = .error message) :
    prepareBatchWithDigestExecutorAndRngFactory fuel batch executor makeRng =
      ⟨[], .error (.error message)⟩ := by
  rw [prepareBatchWithDigestExecutorAndRngFactory, hv, check_error, Traced.error_bind]

theorem prepareBatch_nil :
    prepareBatchWithDigestExecutorAndRngFactory fuel [] executor makeRng = ⟨[], .ok []⟩ := rfl

/-- a batch that returns was validated, and is empty or was planned -/
theorem prepareBatch_ok {batch : List MdocBatchItem} {items : List PreparedMdocBatchItem}
    (h : (prepareBatchWithDigestExecutorAndRngFactory fuel batch executor makeRng).result =
      .ok items) :
    batch = [] ∧ items = [] ∨ ∃ validated planned rng results,
      validateMdocBatch batch = .ok validated ∧
      (planBatch fuel validated).run (makeRng ()) = .ok (planned, rng) ∧
      restoreBatch planned results = .ok items := by
  cases hv : validateMdocBatch batch with
  | error message =>
    rw [prepareBatch_of_error hv] at h
    cases h
  | ok validated =>
    by_cases hempty : batch = []
    · subst hempty
      rw [prepareBatch_nil] at h
      exact .inl ⟨rfl, (Except.ok.inj h).symm⟩
    cases hplan : (planBatch fuel validated).run (makeRng ()) with
    | error halt =>
      rw [prepareBatch_of_unplanned hv hempty hplan] at h
      cases h
    | ok p =>
      obtain ⟨planned, rng⟩ := p
      rw [prepareBatch_of_planned hv hempty hplan] at h
      obtain ⟨results, -, hrestore⟩ := bind_eq_ok (mapError_eq_ok h)
      exact .inr ⟨validated, planned, rng, results, rfl, hplan, hrestore⟩

/-- the ids of the items are those of the batch, in its order -/
theorem prepareBatch_credentialIds {batch : List MdocBatchItem}
    {items : List PreparedMdocBatchItem}
    (h : (prepareBatchWithDigestExecutorAndRngFactory fuel batch executor makeRng).result =
      .ok items) :
    items.map PreparedMdocBatchItem.credentialId = batch.map MdocBatchItem.credentialId := by
  rcases prepareBatch_ok h with ⟨rfl, rfl⟩ | ⟨validated, planned, rng, results, hv, hplan, hrestore⟩
  · rfl
  · rw [restoreBatch_credentialIds hrestore,
      plannedFor_credentialIds (planBatch_plannedFor hv hplan)]

/-- **Batch validation is all or nothing.**  The error of a batch is that of its first offence,
in the order of the caller, and the builders are refused as the single call refuses them; then
neither the generator nor the executor is called.  A batch that passes makes its generator and,
once planned, calls the executor once with the jobs of all credentials.  What it returns has an
item for every credential. -/
theorem prepareBatch_allOrNothing (fuel : Nat) (batch : List MdocBatchItem)
    (executor : DigestExecutor) (makeRng : Unit → R) :
    (∀ message, prepareBatchWithDigestExecutorAndRngFactory fuel batch executor makeRng =
        ⟨[], .error (.error message)⟩ ↔ FirstOffence fuel executor makeRng [] batch message) ∧
    ((∃ message, FirstOffence fuel executor makeRng [] batch message) ↔
      ∃ earlier item later, batch = earlier ++ item :: later ∧
        (item.credentialId ∈ earlier.map MdocBatchItem.credentialId ∨ ¬ item.builder.Valid)) ∧
    (∀ message, validateMdocBatch batch = .error message ↔
      FirstOffence fuel executor makeRng [] batch message) ∧
    (batch = [] → prepareBatchWithDigestExecutorAndRngFactory fuel batch executor makeRng =
      ⟨[], .ok []⟩) ∧
    (∀ validated, validateMdocBatch batch = .ok validated → batch ≠ [] →
      (∀ halt, (planBatch fuel validated).run (makeRng ()) = .error halt →
        prepareBatchWithDigestExecutorAndRngFactory fuel batch executor makeRng =
          ⟨[.makeRng], .error halt⟩) ∧
      ∀ planned rng, (planBatch fuel validated).run (makeRng ()) = .ok (planned, rng) →
        (prepareBatchWithDigestExecutorAndRngFactory fuel batch executor makeRng).calls =
          [.makeRng, .execute ((planned.map Prod.snd).flatMap fun plan => plan.jobs)] ∧
        List.Forall₂ PlannedFor batch planned ∧
        (executor ((planned.map Prod.snd).flatMap fun plan => plan.jobs) = none →
          (prepareBatchWithDigestExecutorAndRngFactory fuel batch executor makeRng).result =
            .error (.error digestExecutionError)) ∧
        ∀ results,
          executor ((planned.map Prod.snd).flatMap fun plan => plan.jobs) = some results →
          ∀ message, assembleReorderedDigestBatches (planned.map Prod.snd) results =
              .error message →
            (prepareBatchWithDigestExecutorAndRngFactory fuel batch executor makeRng).result =
              .error (.error message)) ∧
    ∀ items, (prepareBatchWithDigestExecutorAndRngFactory fuel batch executor makeRng).result =
        .ok items →
      items.map PreparedMdocBatchItem.credentialId = batch.map MdocBatchItem.credentialId := by
  refine ⟨fun message => ?_, exists_firstOffence_iff, fun message => validateMdocBatch_error, ?_, ?_,
    fun items => prepareBatch_credentialIds⟩
  · rw [← validateMdocBatch_error]
    constructor
    · intro hrun
      cases hv : validateMdocBatch batch with
      | error e =>
        rw [prepareBatch_of_error hv] at hrun
        cases hrun
        rfl
      | ok validated =>
        by_cases hempty : batch = []
        · subst hempty
          rw [prepareBatch_nil] at hrun
          cases hrun
        · -- a batch that passes has made its generator
          rw [prepareBatch_of_validated hv hempty, Observed.makeRng, Traced.call_bind] at hrun
          cases hrun
    · exact prepareBatch_of_error
  · rintro rfl
    exact prepareBatch_nil
  · intro validated hv hne
    refine ⟨fun halt hplan => prepareBatch_of_unplanned hv hne hplan, fun planned rng hplan => ?_⟩
    have hjobs : batchJobs planned = (planned.map Prod.snd).flatMap fun plan => plan.jobs := rfl
    rw [prepareBatch_of_planned hv hne hplan, hjobs]
    refine ⟨rfl, planBatch_plannedFor hv hplan, fun hnone => ?_, fun results hsome message he => ?_⟩
    · rw [runExecutor, hnone]
      rfl
    · rw [runExecutor, hsome]
      show (restoreBatch planned results).mapError Halt.error = _
      rw [restoreBatch_error he]
      rfl

end

open scoped Reference in
/-- The jobs of two credentials, for their elements and their decoys, go to the executor at once. -/
theorem prepareBatch_allOrNothing_sample :
    ∃ planned,
      (prepareBatchWithDigestExecutorAndRngFactory 3 [Sample.item 7 .SHA256, Sample.item 3 .SHA384]
        Sample.reversed fun _ => (⟨0⟩ : Reference.Counter)).calls =
          [.makeRng, .execute ((planned.map Prod.snd).flatMap fun plan => plan.jobs)] ∧
      List.Forall₂ PlannedFor [Sample.item 7 .SHA256, Sample.item 3 .SHA384] planned ∧
      ∀ e ∈ planned, 7 ≤ e.2.jobs.length := by
  have hjobs : (((planBatch 3 Sample.validated).run (⟨0⟩ : Reference.Counter)).toOption.any
      fun p => p.1.all fun e => 7 ≤ e.2.jobs.length) = true := by
    decide +kernel
  obtain ⟨⟨planned, rng⟩, hplan, hlong⟩ := exists_ok_of_any hjobs
  obtain ⟨-, -, -, -, hplanned, -⟩ := prepareBatch_allOrNothing 3
    [Sample.item 7 .SHA256, Sample.item 3 .SHA384] Sample.reversed
    fun _ => (⟨0⟩ : Reference.Counter)
  obtain ⟨hcalls, hfor, -⟩ := (hplanned _ Sample.validateMdocBatch_ok (List.cons_ne_nil _ _)).2
    planned rng hplan
  exact ⟨planned, hcalls, hfor, fun e he => of_decide_eq_true (List.all_eq_true.mp hlong e he)⟩

open scoped Reference in
/-- a later item without a document type stops the batch before its generator is made -/
example (executor : DigestExecutor) (makeRng : Unit → Reference.Counter) :
    prepareBatchWithDigestExecutorAndRngFactory 3
      [Sample.item 7 .SHA256, ⟨13, ⟨none, none, none, none, none, none⟩, .ES256⟩] executor makeRng =
        ⟨[], .error (.error "missing parameter: 'doc_type'")⟩ := rfl

end Isomdl
