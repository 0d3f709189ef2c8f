import Isomdl.Issuance.Prepare
import Isomdl.Issuance.Schedule
import Mathlib.Data.Finset.Card

/-!
# The security object commits to exactly the issued items

`commitMap` is the digest table of a list of commitments: under every digest id the hash of
the bytes committed to.  Both assemblies return it when the executor is the serial oracle.

* `assembleDigestNamespaces_serial`   the single path returns the digest table;
* `finishPreparation_ok`              what a prepared credential is made of;
* `prepareWithValidatedInputs_commits`  a prepared credential commits to its items, decoys aside.
-/

set_option linter.unusedSectionVars false

namespace Isomdl

open Cbor

/-! ## the digest table -/

section
variable [Sha2]

def commitIds (algorithm : DigestAlgorithm) (c : Commitment) : DigestIds :=
  Std.ExtTreeMap.ofList (c.map fun e => (e.1, (⟨hash algorithm e.2⟩ : ByteStr))) compare

def commitMap (algorithm : DigestAlgorithm) (cs : List (String × Commitment)) :
    BTreeMap String DigestIds :=
  Std.ExtTreeMap.ofList (cs.map fun e => (e.1, commitIds algorithm e.2)) compare

/-- the digests of the jobs, by identity -/
def HashesJobs (f : Identity → Bytes) (jobs : List DigestJob) : Prop :=
  ∀ job ∈ jobs, f job.identity = hash job.algorithm job.input

theorem digestsFrom_hashes {credentialId : UInt64} {algorithm : DigestAlgorithm}
    {f : Identity → Bytes} {c : Commitment} {n : Nat} (ordinal : Nat)
    (hf : HashesJobs f (jobsFrom credentialId algorithm n ordinal c)) :
    ((digestsFrom credentialId n c).map fun d => (d.digestId, (⟨f d.identity⟩ : ByteStr))) =
      c.map fun e => (e.1, ⟨hash algorithm e.2⟩) := by
  induction c generalizing n ordinal with
  | nil => rfl
  | cons e c ih =>
    have hhead := hf _ List.mem_cons_self
    rw [digestsFrom, List.map_cons, List.map_cons,
      ih (ordinal + 1) fun job hjob => hf job (List.mem_cons_of_mem _ hjob)]
    simp only [DigestJob.identity] at hhead
    simp only [PlannedMdocDigest.identity, hhead]

theorem namespacesFrom_hashes {credentialId : UInt64} {algorithm : DigestAlgorithm}
    {f : Identity → Bytes} {cs : List (String × Commitment)} {n : Nat}
    (hf : HashesJobs f (allJobsFrom credentialId algorithm n cs)) :
    ((namespacesFrom credentialId n cs).map fun ns => (ns.name, ns.digestIds f)) =
      cs.map fun e => (e.1, commitIds algorithm e.2) := by
  induction cs generalizing n with
  | nil => rfl
  | cons e cs ih =>
    rw [namespacesFrom, List.map_cons, List.map_cons,
      ih fun job hjob => hf job (List.mem_append_right _ hjob)]
    rw [PlannedMdocNamespace.digestIds, commitIds,
      digestsFrom_hashes 0 fun job hjob => hf job (List.mem_append_left _ hjob)]

/-- **A rendered plan has the digest table of its commitments, under any credential.** -/
theorem planFrom_valueDigests {credentialId : UInt64} {algorithm : DigestAlgorithm}
    {f : Identity → Bytes} {cs : List (String × Commitment)}
    (hf : HashesJobs f (planFrom credentialId algorithm cs).jobs) :
    (planFrom credentialId algorithm cs).valueDigests f = commitMap algorithm cs := by
  rw [MdocDigestPlan.valueDigests, commitMap]
  congr 1
  exact namespacesFrom_hashes hf

theorem hashesJobs_of_mem {jobs : List DigestJob} {results : List DigestResult}
    (hnd : (results.map DigestResult.identity).Nodup)
    (hmem : ∀ job ∈ jobs, executeDigestJob job ∈ results) :
    HashesJobs (digestOf (collectResults results).1) jobs := by
  intro job hjob
  have hlook := (getElem?_collectResults hnd).mpr ⟨hmem job hjob, identity_executeDigestJob job⟩
  rw [digestOf_of_some hlook]
  rfl

theorem map_executeDigestJob_identity (jobs : List DigestJob) :
    (jobs.map executeDigestJob).map DigestResult.identity = jobs.map DigestJob.identity := by
  rw [List.map_map]
  rfl

theorem map_executeDigestJob_shape (jobs : List DigestJob) :
    (jobs.map executeDigestJob).map DigestResult.shape = jobs.map DigestJob.shape := by
  rw [List.map_map]
  refine List.map_congr_left fun job _ => ?_
  simp only [Function.comp_apply, DigestResult.shape, DigestJob.shape, executeDigestJob,
    DigestResult.identity, DigestJob.identity, length_hash]

/-- **The single path with the serial executor returns the digest table.** -/
theorem assembleDigestNamespaces_serial (credentialId : UInt64) (algorithm : DigestAlgorithm)
    {cs : List (String × Commitment)} (hcs : Plannable cs) :
    assembleDigestNamespaces (planFrom credentialId algorithm cs)
        ((planFrom credentialId algorithm cs).jobs.map executeDigestJob) =
      .ok (commitMap algorithm cs) := by
  have hwf := planFrom_wellFormed credentialId algorithm hcs
  rw [planFrom_scheduleIndependent hcs _ _ (List.Perm.refl _),
    assembleReorderedDigestNamespaces_ok hwf]
  · rw [planFrom_valueDigests]
    apply hashesJobs_of_mem
    · rw [map_executeDigestJob_identity]
      exact hwf.jobs_distinct
    · exact fun job hjob => List.mem_map.mpr ⟨job, hjob, rfl⟩
  · rw [ResultsExact, map_executeDigestJob_shape, List.flatMap_singleton]

theorem mem_commitMap {algorithm : DigestAlgorithm} {cs : List (String × Commitment)}
    {name : String} : name ∈ commitMap algorithm cs ↔ name ∈ cs.map Prod.fst := by
  rw [commitMap, BTreeMap.mem_ofList, List.map_map]
  rfl

theorem commitMap_of_mem {algorithm : DigestAlgorithm} {cs : List (String × Commitment)}
    (hcs : Plannable cs) {name : String} {c : Commitment} (h : (name, c) ∈ cs) :
    (commitMap algorithm cs)[name]? = some (commitIds algorithm c) := by
  apply BTreeMap.getElem?_ofList_of_mem
  · rw [List.map_map]
    exact hcs.names_distinct
  · exact List.mem_map.mpr ⟨(name, c), h, rfl⟩

theorem mem_commitIds {algorithm : DigestAlgorithm} {c : Commitment} {d : DigestId} :
    d ∈ commitIds algorithm c ↔ d ∈ c.map Prod.fst := by
  rw [commitIds, BTreeMap.mem_ofList, List.map_map]
  rfl

theorem commitIds_of_mem {algorithm : DigestAlgorithm} {c : Commitment}
    (hnd : (c.map Prod.fst).Nodup) {d : DigestId} {input : Bytes} (h : (d, input) ∈ c) :
    (commitIds algorithm c)[d]? = some ⟨hash algorithm input⟩ := by
  apply BTreeMap.getElem?_ofList_of_mem
  · rw [List.map_map]
    exact hnd
  · exact List.mem_map.mpr ⟨(d, input), h, rfl⟩

end

/-! ## the prepared credential -/

section
variable [Ciborium] [Rfc3339] [Coset]

/-- **A finished credential carries its inputs unchanged.** -/
theorem finishPreparation_ok {docType : String} {issuerNamespaces : IssuerNamespaces}
    {validityInfo : ValidityInfo} {digestAlgorithm : DigestAlgorithm}
    {deviceKeyInfo : DeviceKeyInfo} {signatureAlgorithm : Algorithm}
    {valueDigests : BTreeMap String DigestIds} {m : PreparedMdoc}
    (h : finishPreparation docType issuerNamespaces validityInfo digestAlgorithm deviceKeyInfo
      signatureAlgorithm valueDigests = .ok m) :
    m.docType = docType ∧ m.namespaces = issuerNamespaces ∧
      m.mso = ⟨"1.0", digestAlgorithm, valueDigests, deviceKeyInfo, docType, validityInfo⟩ := by
  unfold finishPreparation at h
  simp only [bind, Except.bind] at h
  split at h
  · cases h
  split at h
  · cases h
  split at h
  · cases h
  cases h
  exact ⟨rfl, rfl, rfl⟩

end

/-! ## what a prepared credential commits to -/

/-- one namespace of a prepared credential: an item for each element, under distinct ids; a
digest for each item; and beside them only decoys -/
structure NamespaceCommits [Ciborium] [Sha2] (algorithm : DigestAlgorithm)
    (enableDecoyDigests : Bool) (elements : BTreeMap String Value)
    (items : NonEmptyVec IssuerSignedItemBytes) (digestIds : DigestIds) : Prop where
  elements_kept :
    (items.toList.map fun t => (t.inner.elementIdentifier, t.inner.elementValue)) = elements.toList
  ids_distinct : (items.toList.map (·.inner.digestId)).Nodup
  item_bytes : ∀ t ∈ items.toList, toVec t.inner = .ok t.innerBytes
  digests : ∀ t ∈ items.toList, ∃ encoding, toVec t = .ok encoding ∧
    digestIds[t.inner.digestId]? = some ⟨hash algorithm encoding⟩
  keys : ∃ decoyIds : Finset DigestId, DecoyCount enableDecoyDigests decoyIds.card ∧
    (∀ d ∈ decoyIds, d ∉ items.toList.map (·.inner.digestId)) ∧
    ∀ d, d ∈ digestIds ↔ d ∈ items.toList.map (·.inner.digestId) ∨ d ∈ decoyIds

/-- the prepared credential has the given namespaces, in its items and in its digest table, and
commits to each of them -/
structure CommitsExactly [Ciborium] [Sha2] (namespaces : Namespaces) (algorithm : DigestAlgorithm)
    (enableDecoyDigests : Bool) (m : PreparedMdoc) : Prop where
  algorithm_kept : m.mso.digestAlgorithm = algorithm
  item_namespaces : ∀ name, name ∈ m.namespaces.toMap ↔ name ∈ namespaces
  digest_namespaces : ∀ name, name ∈ m.mso.valueDigests ↔ name ∈ namespaces
  commits : ∀ (name : String) (elements : BTreeMap String Value),
    namespaces[name]? = some elements → ∃ items digestIds, m.namespaces.toMap[name]? = some items ∧
      m.mso.valueDigests[name]? = some digestIds ∧
      NamespaceCommits algorithm enableDecoyDigests elements items digestIds

section
variable {R : Type} [RngCore R] [Ciborium] [Rfc3339] [Coset] [Sha2]

theorem Encodes.elements_kept {elements : List (String × Value)}
    {items : List IssuerSignedItemBytes} (h : List.Forall₂ Encodes elements items) :
    (items.map fun t => (t.inner.elementIdentifier, t.inner.elementValue)) = elements := by
  induction h with
  | nil => rfl
  | cons h _ ih => rw [List.map_cons, ih, h.1, h.2.1]

theorem Encodes.item_bytes {elements : List (String × Value)}
    {items : List IssuerSignedItemBytes} (h : List.Forall₂ Encodes elements items) :
    ∀ t ∈ items, toVec t.inner = .ok t.innerBytes := by
  induction h with
  | nil =>
    intro t ht
    cases ht
  | cons h _ ih =>
    intro t ht
    rcases List.mem_cons.mp ht with rfl | ht
    · exact h.2.2
    · exact ih t ht

/-- **The items of a namespace and its commitment agree.** -/
theorem namespaceCommits_of_issues {algorithm : DigestAlgorithm} {enableDecoyDigests : Bool}
    {name : String} {elements : BTreeMap String Value} {items : NonEmptyVec IssuerSignedItemBytes}
    {c : Commitment} (hissues : Issues (name, elements) (name, items))
    (hcommits : Commits enableDecoyDigests items.toList c) :
    NamespaceCommits algorithm enableDecoyDigests elements items (commitIds algorithm c) := by
  obtain ⟨-, henc, hnd⟩ := hissues
  have hids := hcommits.ids_distinct hnd
  obtain ⟨decoys, rfl, hcount, hfresh⟩ := hcommits.split
  refine ⟨Encodes.elements_kept henc, hnd, Encodes.item_bytes henc, fun t ht => ?_, ?_⟩
  · refine ⟨_, t.toVec_eq, commitIds_of_mem hids (List.mem_append_left _ ?_)⟩
    exact List.mem_map.mpr ⟨t, ht, rfl⟩
  · refine ⟨(decoys.map Prod.fst).toFinset, ?_, fun d hd h => ?_, fun d => ?_⟩
    · rw [List.toFinset_card_of_nodup hfresh.ids_distinct, List.length_map]
      exact hcount
    · obtain ⟨e, he, rfl⟩ := List.mem_map.mp (List.mem_toFinset.mp hd)
      exact hfresh.ids_fresh e he (List.mem_toFinset.mpr h)
    · rw [mem_commitIds, List.map_append, List.mem_append, itemCommitment_fst, List.mem_toFinset]

/-- a prepared credential before it is finished: issued items and their digest table -/
structure Commitment.Table (namespaces : Namespaces) (algorithm : DigestAlgorithm)
    (enableDecoyDigests : Bool) (m : PreparedMdoc) (cs : List (String × Commitment)) : Prop where
  names : ∀ name, name ∈ m.namespaces.toMap ↔ name ∈ namespaces
  issues : ∀ (name : String) (elements : BTreeMap String Value), namespaces[name]? = some elements →
    ∃ items, m.namespaces.toMap[name]? = some items ∧ Issues (name, elements) (name, items)
  entries : List.Forall₂ (CommitsEntry enableDecoyDigests) m.namespaces.toMap.toList cs
  plannable : Plannable cs
  algorithm_kept : m.mso.digestAlgorithm = algorithm
  valueDigests : m.mso.valueDigests = commitMap algorithm cs

/-- **A digest table of the issued items commits to exactly them.** -/
theorem commitsExactly_of_table {namespaces : Namespaces} {algorithm : DigestAlgorithm}
    {enableDecoyDigests : Bool} {m : PreparedMdoc} {cs : List (String × Commitment)}
    (h : Commitment.Table namespaces algorithm enableDecoyDigests m cs) :
    CommitsExactly namespaces algorithm enableDecoyDigests m := by
  have hkeys := CommitsEntry.keys h.entries
  refine ⟨h.algorithm_kept, h.names, fun name => ?_, ?_⟩
  · rw [h.valueDigests, mem_commitMap, hkeys, BTreeMap.mem_toList_keys, h.names]
  · intro name elements helements
    obtain ⟨items, hitems, hissues⟩ := h.issues name elements helements
    obtain ⟨i, hi, hget⟩ := List.getElem_of_mem (BTreeMap.mem_toList.mpr hitems)
    have hi' : i < cs.length := h.entries.length_eq ▸ hi
    have hrel := h.entries.get hi hi'
    rw [List.get_eq_getElem, List.get_eq_getElem, hget] at hrel
    have hmem : (name, cs[i].2) ∈ cs := by
      have hfst : cs[i].1 = name := hrel.1
      rw [← hfst]
      exact List.getElem_mem hi'
    refine ⟨items, commitIds algorithm cs[i].2, hitems, ?_, ?_⟩
    · rw [h.valueDigests]
      exact commitMap_of_mem h.plannable hmem
    · exact namespaceCommits_of_issues hissues hrel.2

/-- the single path returns issued items and their digest table -/
theorem prepareWithValidatedInputs_returns (fuel : Nat) (docType : String)
    (namespaces : Namespaces) (validityInfo : ValidityInfo) (digestAlgorithm : DigestAlgorithm)
    (deviceKeyInfo : DeviceKeyInfo) (signatureAlgorithm : Algorithm) (enableDecoyDigests : Bool) :
    Returns (prepareWithValidatedInputs fuel docType namespaces validityInfo digestAlgorithm
        deviceKeyInfo signatureAlgorithm enableDecoyDigests serialDigestExecutor :
          Prepare R PreparedMdoc) fun m =>
      ∃ cs valueDigests, Commitment.Table namespaces digestAlgorithm enableDecoyDigests m cs ∧
        finishPreparation docType m.namespaces validityInfo digestAlgorithm deviceKeyInfo
          signatureAlgorithm valueDigests = .ok m := by
  rw [prepareWithValidatedInputs]
  refine Returns.bind (toIssuerNamespaces_returns fuel namespaces) fun issued hissued => ?_
  refine Returns.bind (planDigestNamespacesForCredential_returns fuel _ _ _ _) ?_
  rintro plan ⟨cs, hentries, hfits, rfl⟩
  have hcs := CommitsEntry.plannable (distinctIds_of_issues hissued.1 hissued.2) hentries hfits
  refine Returns.bind (Returns.ofResult fun results h => h) fun results hresults => ?_
  have hresults' : (planFrom MDOC_CREDENTIAL_ID digestAlgorithm cs).jobs.map executeDigestJob =
      results := Except.ok.inj hresults
  refine Returns.bind (Returns.ofResult fun maps h => h) fun maps hmaps => ?_
  rw [← hresults', assembleDigestNamespaces_serial _ _ hcs] at hmaps
  obtain rfl := Except.ok.inj hmaps
  refine Returns.ofResult fun m hm => ?_
  obtain ⟨-, hns, hmso⟩ := finishPreparation_ok hm
  have halgorithm : m.mso.digestAlgorithm = digestAlgorithm := by rw [hmso]
  have hdigests : m.mso.valueDigests = commitMap digestAlgorithm cs := by rw [hmso]
  subst hns
  exact ⟨cs, _, ⟨hissued.1, hissued.2, hentries, hcs, halgorithm, hdigests⟩, hm⟩

/-- **The security object commits to exactly the issued items: whenever the single path returns a
prepared credential, its items are the given elements under distinct digest ids, its digest
table holds the hash of each encoded item, and beside them only decoys.** -/
theorem prepareWithValidatedInputs_commits (fuel : Nat) (docType : String)
    (namespaces : Namespaces) (validityInfo : ValidityInfo) (digestAlgorithm : DigestAlgorithm)
    (deviceKeyInfo : DeviceKeyInfo) (signatureAlgorithm : Algorithm) (enableDecoyDigests : Bool) :
    Returns (prepareWithValidatedInputs fuel docType namespaces validityInfo digestAlgorithm
        deviceKeyInfo signatureAlgorithm enableDecoyDigests serialDigestExecutor :
          Prepare R PreparedMdoc)
      (CommitsExactly namespaces digestAlgorithm enableDecoyDigests) := by
  refine (prepareWithValidatedInputs_returns fuel _ _ _ _ _ _ _).mono ?_
  intro m hm
  obtain ⟨cs, -, htable, -⟩ := hm
  exact commitsExactly_of_table htable

end

end Isomdl
