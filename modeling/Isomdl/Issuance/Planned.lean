import Isomdl.Issuance.Exactness

/-!
# What a planned credential looks like

A `Commitment` lists what one namespace commits to: digest ids with the bytes to hash, items
first.  A plan is the rendering `planFrom` of a commitment for each namespace: the jobs are
numbered consecutively and the planned digests reference them in order.

* `Returns.generateDigestId`, `toIssuerNamespaces_returns`   what the drawing returns;
* `planDigestNamespacesForCredential_returns`               every plan is such a rendering;
* `planFrom_wellFormed`                                     and is well formed.
-/

set_option linter.unusedSectionVars false

namespace Isomdl

open Cbor

/-! ## drawing -/

section
variable {R : Type} [RngCore R] [Ciborium]

/-- **A drawn digest id is new, and is recorded as used.** -/
theorem generateDigestId_returns (fuel : Nat) (usedIds : Finset DigestId) :
    Returns (generateDigestId fuel usedIds : Prepare R _) fun p =>
      p.1 ∉ usedIds ∧ p.2 = insert p.1 usedIds := by
  induction fuel with
  | zero => exact Returns.throw
  | succ fuel ih =>
    rw [generateDigestId]
    refine Returns.bind (Returns.trivial _) fun i _ => ?_
    exact Returns.ite (fun _ => ih) fun h => Returns.pure ⟨h, rfl⟩

/-- the item keeps its element and its bytes are its own encoding -/
def Encodes (element : String × Value) (item : IssuerSignedItemBytes) : Prop :=
  item.inner.elementIdentifier = element.1 ∧ item.inner.elementValue = element.2 ∧
    toVec item.inner = .ok item.innerBytes

theorem newItem_returns (item : IssuerSignedItem) (f : Tag24.Error → String) :
    Returns (ofResult ((Tag24.new item).mapError f) : Prepare R _) fun t =>
      t.inner = item ∧ toVec item = .ok t.innerBytes := by
  refine Returns.ofResult fun t ht => ?_
  cases hn : Tag24.new item with
  | error e =>
    rw [hn] at ht
    cases ht
  | ok t' =>
    rw [hn] at ht
    cases ht
    exact Tag24.new_ok hn

theorem toIssuerItems_returns (fuel : Nat) (elements : List (String × Value))
    (usedIds : Finset DigestId) :
    Returns (toIssuerItems fuel elements usedIds : Prepare R _) fun items =>
      List.Forall₂ Encodes elements items ∧
      (items.map (·.inner.digestId)).Nodup ∧ ∀ item ∈ items, item.inner.digestId ∉ usedIds := by
  induction elements generalizing usedIds with
  | nil => exact Returns.pure ⟨List.Forall₂.nil, List.nodup_nil, by simp⟩
  | cons element elements ih =>
    obtain ⟨key, value⟩ := element
    rw [toIssuerItems]
    refine Returns.bind (generateDigestId_returns fuel usedIds) ?_
    rintro ⟨digestId, used⟩ ⟨hnew, hused⟩
    dsimp only at hnew hused ⊢
    subst hused
    refine Returns.bind (Returns.trivial _) fun random _ => ?_
    refine Returns.bind (newItem_returns _ _) fun item hitem => ?_
    obtain ⟨hinner, hvec⟩ := hitem
    have hid : item.inner.digestId = digestId := by rw [hinner]
    have henc : Encodes (key, value) item := by
      rw [Encodes, hinner]
      exact ⟨rfl, rfl, hvec⟩
    refine Returns.bind (ih _) fun items hitems => Returns.pure ?_
    obtain ⟨hall, hnd, hfresh⟩ := hitems
    refine ⟨List.Forall₂.cons henc hall, ?_, ?_⟩
    · rw [List.map_cons, List.nodup_cons, hid]
      refine ⟨fun h => ?_, hnd⟩
      obtain ⟨t, ht, heq⟩ := List.mem_map.mp h
      exact hfresh t ht (Finset.mem_insert.mpr (Or.inl heq))
    · intro t ht
      rcases List.mem_cons.mp ht with rfl | ht
      · rw [hid]
        exact hnew
      · exact fun h => hfresh t ht (Finset.mem_insert_of_mem h)

/-- one namespace: an item for each element, under distinct digest ids -/
def Issues (entry : String × BTreeMap String Value)
    (issued : String × NonEmptyVec IssuerSignedItemBytes) : Prop :=
  issued.1 = entry.1 ∧ List.Forall₂ Encodes entry.2.toList issued.2.toList ∧
    (issued.2.toList.map (·.inner.digestId)).Nodup

theorem toIssuerNamespace_returns (fuel : Nat) (entry : String × BTreeMap String Value) :
    Returns (toIssuerNamespace fuel entry : Prepare R _) (Issues entry) := by
  rw [toIssuerNamespace]
  refine Returns.bind (toIssuerItems_returns fuel _ ∅) fun items hitems => ?_
  split
  · exact Returns.throw
  · next elems h =>
    rw [NonEmptyVec.tryFrom_eq_some] at h
    subst h
    exact Returns.pure ⟨rfl, hitems.1, hitems.2.1⟩

theorem Issues.keys {entries : List (String × BTreeMap String Value)}
    {issued : List (String × NonEmptyVec IssuerSignedItemBytes)}
    (h : List.Forall₂ Issues entries issued) : issued.map Prod.fst = entries.map Prod.fst := by
  induction h with
  | nil => rfl
  | cons h _ ih => rw [List.map_cons, List.map_cons, ih, h.1]

/-- the issued namespaces, in the order of the given ones -/
theorem toIssuerNamespaces_entries (fuel : Nat) (namespaces : Namespaces) :
    Returns (toIssuerNamespaces fuel namespaces : Prepare R _) fun issued =>
      List.Forall₂ Issues namespaces.toList issued.toMap.toList := by
  rw [toIssuerNamespaces]
  refine Returns.bind (Returns.mapM _ fun entry _ => toIssuerNamespace_returns fuel entry) ?_
  intro entries hentries
  split
  · exact Returns.throw
  · next issued h =>
    rw [NonEmptyMap.tryFrom_eq_some] at h
    refine Returns.pure ?_
    rw [← h, BTreeMap.toList_ofList_of_keys (Issues.keys hentries)]
    exact hentries

/-- **The issued namespaces are the given ones, each with an item for each element.** -/
theorem toIssuerNamespaces_returns (fuel : Nat) (namespaces : Namespaces) :
    Returns (toIssuerNamespaces fuel namespaces : Prepare R _) fun issued =>
      (∀ name, name ∈ issued.toMap ↔ name ∈ namespaces) ∧
      ∀ name elements, namespaces[name]? = some elements →
        ∃ items, issued.toMap[name]? = some items ∧ Issues (name, elements) (name, items) := by
  refine (toIssuerNamespaces_entries fuel namespaces).mono fun issued hentries => ?_
  refine ⟨fun name => ?_, fun name elements hname => ?_⟩
  · rw [← BTreeMap.mem_toList_keys, Issues.keys hentries, BTreeMap.mem_toList_keys]
  · obtain ⟨i, hi, hget⟩ := List.getElem_of_mem (BTreeMap.mem_toList.mpr hname)
    have hi' : i < issued.toMap.toList.length := hentries.length_eq ▸ hi
    have hrel := hentries.get hi hi'
    rw [List.get_eq_getElem, List.get_eq_getElem, hget] at hrel
    have hname' : name = issued.toMap.toList[i].1 := hrel.1.symm
    refine ⟨issued.toMap.toList[i].2, ?_, rfl, hrel.2.1, hrel.2.2⟩
    rw [← BTreeMap.mem_toList, hname']
    exact List.getElem_mem hi'

end

/-! ## rendering a plan -/

/-- digest ids with the bytes to hash -/
abbrev Commitment := List (DigestId × Bytes)

/-- the jobs of a commitment: job ids from `n` on, ordinals from `ordinal` on -/
def jobsFrom (credentialId : UInt64) (algorithm : DigestAlgorithm) :
    Nat → Nat → Commitment → List DigestJob
  | _, _, [] => []
  | n, ordinal, e :: c =>
    ⟨credentialId, UInt64.ofNat n, ordinal, algorithm, e.2⟩ ::
      jobsFrom credentialId algorithm (n + 1) (ordinal + 1) c

def digestsFrom (credentialId : UInt64) : Nat → Commitment → List PlannedMdocDigest
  | _, [] => []
  | n, e :: c => ⟨credentialId, UInt64.ofNat n, e.1⟩ :: digestsFrom credentialId (n + 1) c

def namespacesFrom (credentialId : UInt64) :
    Nat → List (String × Commitment) → List PlannedMdocNamespace
  | _, [] => []
  | n, (name, c) :: cs =>
    ⟨name, digestsFrom credentialId n c⟩ :: namespacesFrom credentialId (n + c.length) cs

def allJobsFrom (credentialId : UInt64) (algorithm : DigestAlgorithm) :
    Nat → List (String × Commitment) → List DigestJob
  | _, [] => []
  | n, (_, c) :: cs =>
    jobsFrom credentialId algorithm n 0 c ++
      allJobsFrom credentialId algorithm (n + c.length) cs

def planFrom (credentialId : UInt64) (algorithm : DigestAlgorithm)
    (cs : List (String × Commitment)) : MdocDigestPlan :=
  ⟨credentialId, namespacesFrom credentialId 0 cs, allJobsFrom credentialId algorithm 0 cs⟩

/-- the number of digests of a list of commitments -/
def commitCount (cs : List (String × Commitment)) : Nat := (cs.map fun c => c.2.length).sum

theorem commitCount_nil : commitCount [] = 0 := rfl
theorem commitCount_cons (e : String × Commitment) (cs : List (String × Commitment)) :
    commitCount (e :: cs) = e.2.length + commitCount cs := by
  simp [commitCount]

theorem jobsFrom_append (credentialId : UInt64) (algorithm : DigestAlgorithm) (n ordinal : Nat)
    (c d : Commitment) :
    jobsFrom credentialId algorithm n ordinal (c ++ d) =
      jobsFrom credentialId algorithm n ordinal c ++
        jobsFrom credentialId algorithm (n + c.length) (ordinal + c.length) d := by
  induction c generalizing n ordinal with
  | nil => rfl
  | cons e c ih =>
    simp only [List.cons_append, jobsFrom, ih, List.length_cons]
    congr 3 <;> omega

theorem digestsFrom_append (credentialId : UInt64) (n : Nat) (c d : Commitment) :
    digestsFrom credentialId n (c ++ d) =
      digestsFrom credentialId n c ++ digestsFrom credentialId (n + c.length) d := by
  induction c generalizing n with
  | nil => rfl
  | cons e c ih =>
    simp only [List.cons_append, digestsFrom, ih, List.length_cons]
    congr 3
    omega

theorem digestsFrom_digestId (credentialId : UInt64) (n : Nat) (c : Commitment) :
    (digestsFrom credentialId n c).map PlannedMdocDigest.digestId = c.map Prod.fst := by
  induction c generalizing n with
  | nil => rfl
  | cons e c ih => rw [digestsFrom, List.map_cons, List.map_cons, ih]

theorem namespacesFrom_name (credentialId : UInt64) (n : Nat) (cs : List (String × Commitment)) :
    (namespacesFrom credentialId n cs).map PlannedMdocNamespace.name = cs.map Prod.fst := by
  induction cs generalizing n with
  | nil => rfl
  | cons e cs ih => rw [namespacesFrom, List.map_cons, List.map_cons, ih]

/-- the identities of `k` digests from job id `n` on -/
def identitiesFrom (credentialId : UInt64) (n k : Nat) : List Identity :=
  (List.range' n k).map fun i => (credentialId, UInt64.ofNat i)

theorem identitiesFrom_succ (credentialId : UInt64) (n k : Nat) :
    identitiesFrom credentialId n (k + 1) =
      (credentialId, UInt64.ofNat n) :: identitiesFrom credentialId (n + 1) k := by
  rw [identitiesFrom, List.range'_succ, List.map_cons, identitiesFrom]

theorem identitiesFrom_append (credentialId : UInt64) (n j k : Nat) :
    identitiesFrom credentialId n j ++ identitiesFrom credentialId (n + j) k =
      identitiesFrom credentialId n (j + k) := by
  rw [identitiesFrom, identitiesFrom, identitiesFrom, ← List.map_append]
  congr 1
  have h := List.range'_append_1 (s := n) (m := j) (n := k)
  exact h

theorem identitiesFrom_nodup (credentialId : UInt64) {n k : Nat} (h : n + k ≤ 2 ^ 64) :
    (identitiesFrom credentialId n k).Nodup := by
  rw [identitiesFrom, List.nodup_map_iff_inj_on List.nodup_range']
  intro i hi j hj heq
  rw [List.mem_range'_1] at hi hj
  have hij := congrArg (fun p : Identity => p.2.toNat) heq
  simp only [UInt64.toNat_ofNat'] at hij
  rw [Nat.mod_eq_of_lt (by omega), Nat.mod_eq_of_lt (by omega)] at hij
  exact hij

theorem jobsFrom_identity (credentialId : UInt64) (algorithm : DigestAlgorithm) (n ordinal : Nat)
    (c : Commitment) :
    (jobsFrom credentialId algorithm n ordinal c).map DigestJob.identity =
      identitiesFrom credentialId n c.length := by
  induction c generalizing n ordinal with
  | nil => rfl
  | cons e c ih =>
    rw [jobsFrom, List.map_cons, ih, List.length_cons, identitiesFrom_succ]
    rfl

theorem digestsFrom_identity (credentialId : UInt64) (n : Nat) (c : Commitment) :
    (digestsFrom credentialId n c).map PlannedMdocDigest.identity =
      identitiesFrom credentialId n c.length := by
  induction c generalizing n with
  | nil => rfl
  | cons e c ih =>
    rw [digestsFrom, List.map_cons, ih, List.length_cons, identitiesFrom_succ]
    rfl

theorem allJobsFrom_identity (credentialId : UInt64) (algorithm : DigestAlgorithm) (n : Nat)
    (cs : List (String × Commitment)) :
    (allJobsFrom credentialId algorithm n cs).map DigestJob.identity =
      identitiesFrom credentialId n (commitCount cs) := by
  induction cs generalizing n with
  | nil => rfl
  | cons e cs ih =>
    rw [allJobsFrom, List.map_append, jobsFrom_identity, ih, commitCount_cons,
      identitiesFrom_append]

theorem namespacesFrom_identity (credentialId : UInt64) (n : Nat)
    (cs : List (String × Commitment)) :
    ((namespacesFrom credentialId n cs).flatMap (·.digests)).map PlannedMdocDigest.identity =
      identitiesFrom credentialId n (commitCount cs) := by
  induction cs generalizing n with
  | nil => rfl
  | cons e cs ih =>
    rw [namespacesFrom, List.flatMap_cons, List.map_append, digestsFrom_identity, ih,
      commitCount_cons, identitiesFrom_append]

theorem mem_namespacesFrom {credentialId : UInt64} {n : Nat} {cs : List (String × Commitment)}
    {ns : PlannedMdocNamespace} (h : ns ∈ namespacesFrom credentialId n cs) :
    ∃ e ∈ cs, ∃ k, ns = ⟨e.1, digestsFrom credentialId k e.2⟩ := by
  induction cs generalizing n with
  | nil => cases h
  | cons e cs ih =>
    rcases List.mem_cons.mp h with rfl | h
    · exact ⟨e, List.mem_cons_self, n, rfl⟩
    · obtain ⟨e', he', k, hk⟩ := ih h
      exact ⟨e', List.mem_cons_of_mem e he', k, hk⟩

/-- what makes a list of commitments plannable -/
structure Plannable (cs : List (String × Commitment)) : Prop where
  names_distinct : (cs.map Prod.fst).Nodup
  ids_distinct : ∀ e ∈ cs, (e.2.map Prod.fst).Nodup
  fits : commitCount cs < 2 ^ 64

/-- **A rendered plan is well formed.** -/
theorem planFrom_wellFormed (credentialId : UInt64) (algorithm : DigestAlgorithm)
    {cs : List (String × Commitment)} (h : Plannable cs) :
    (planFrom credentialId algorithm cs).WellFormed := by
  have hfits := h.fits
  have hids : ((planFrom credentialId algorithm cs).jobs.map DigestJob.identity) =
      identitiesFrom credentialId 0 (commitCount cs) := allJobsFrom_identity _ _ _ _
  have hds : ((planFrom credentialId algorithm cs).digests.map PlannedMdocDigest.identity) =
      identitiesFrom credentialId 0 (commitCount cs) := namespacesFrom_identity _ _ _
  have hcred {a : Identity} (ha : a ∈ identitiesFrom credentialId 0 (commitCount cs)) :
      a.1 = credentialId := by
    obtain ⟨i, -, rfl⟩ := List.mem_map.mp ha
    rfl
  refine ⟨fun job hjob => ?_, fun d hd => ?_, ?_, ?_, ?_, fun ns hns => ?_⟩
  · exact hcred (hids ▸ List.mem_map.mpr ⟨job, hjob, rfl⟩)
  · exact hcred (hds ▸ List.mem_map.mpr ⟨d, hd, rfl⟩)
  · rw [hids]
    exact identitiesFrom_nodup _ (by omega)
  · rw [hids, hds]
  · rw [planFrom, namespacesFrom_name]
    exact h.names_distinct
  · obtain ⟨e, he, k, rfl⟩ := mem_namespacesFrom hns
    rw [digestsFrom_digestId]
    exact h.ids_distinct e he

/-! ## planning -/

/-- the state after planning a commitment under `credentialId` -/
def PlanState.push (credentialId : UInt64) (algorithm : DigestAlgorithm) (ordinal : Nat)
    (st : PlanState) (c : Commitment) : PlanState where
  nextJobId := UInt64.ofNat (st.nextJobId.toNat + c.length)
  jobs := st.jobs ++ jobsFrom credentialId algorithm st.nextJobId.toNat ordinal c
  plannedDigests := st.plannedDigests ++ digestsFrom credentialId st.nextJobId.toNat c

theorem PlanState.push_nil (credentialId : UInt64) (algorithm : DigestAlgorithm) (ordinal : Nat)
    (st : PlanState) : st.push credentialId algorithm ordinal [] = st := by
  simp [push, jobsFrom, digestsFrom]

theorem PlanState.push_append (credentialId : UInt64) (algorithm : DigestAlgorithm) (ordinal : Nat)
    (st : PlanState) (c d : Commitment) (h : st.nextJobId.toNat + c.length < 2 ^ 64) :
    (st.push credentialId algorithm ordinal c).push credentialId algorithm (ordinal + c.length) d =
      st.push credentialId algorithm ordinal (c ++ d) := by
  have hn : (UInt64.ofNat (st.nextJobId.toNat + c.length)).toNat =
      st.nextJobId.toNat + c.length := by
    rw [UInt64.toNat_ofNat', Nat.mod_eq_of_lt h]
  simp only [push, jobsFrom_append, digestsFrom_append, List.append_assoc, hn, List.length_append,
    Nat.add_assoc]

theorem pushPlannedDigest_ok {credentialId : UInt64} {digestId : DigestId} {ordinal : Nat}
    {algorithm : DigestAlgorithm} {input : Bytes} {st st' : PlanState}
    (h : pushPlannedDigest credentialId digestId ordinal algorithm input st = .ok st') :
    st.nextJobId.toNat + 1 < 2 ^ 64 ∧
      st' = st.push credentialId algorithm ordinal [(digestId, input)] := by
  rw [pushPlannedDigest] at h
  cases hadd : st.nextJobId.checkedAdd 1 with
  | none =>
    rw [hadd] at h
    cases h
  | some next =>
    rw [hadd] at h
    cases h
    have hnext := UInt64.checkedAdd_one.mp hadd
    have hlt := next.toNat_lt
    refine ⟨by omega, ?_⟩
    simp [PlanState.push, jobsFrom, digestsFrom, ← hnext]

/-- **One step of planning, then the rest.** -/
theorem PlanState.push_cons (credentialId : UInt64) (algorithm : DigestAlgorithm) (ordinal : Nat)
    (st : PlanState) (e : DigestId × Bytes) (c : Commitment)
    (h : st.nextJobId.toNat + 1 < 2 ^ 64) :
    (st.push credentialId algorithm ordinal [e]).push credentialId algorithm (ordinal + 1) c =
      st.push credentialId algorithm ordinal (e :: c) :=
  push_append credentialId algorithm ordinal st [e] c h

theorem PlanState.push_nextJobId (credentialId : UInt64) (algorithm : DigestAlgorithm)
    (ordinal : Nat) (st : PlanState) (c : Commitment) (h : st.nextJobId.toNat + c.length < 2 ^ 64) :
    (st.push credentialId algorithm ordinal c).nextJobId.toNat = st.nextJobId.toNat + c.length := by
  rw [push, UInt64.toNat_ofNat', Nat.mod_eq_of_lt h]

section
variable {R : Type} [RngCore R] [Ciborium]

/-- what the items of a namespace commit to: the encoding of each `Tag24` item -/
def itemCommitment (elements : List IssuerSignedItemBytes) : Commitment :=
  elements.map fun t => (t.inner.digestId, Ciborium.intoWriter t.toCbor)

theorem itemCommitment_fst (elements : List IssuerSignedItemBytes) :
    (itemCommitment elements).map Prod.fst = elements.map (·.inner.digestId) := by
  rw [itemCommitment, List.map_map]
  rfl

theorem planItems_ok {credentialId : UInt64} {algorithm : DigestAlgorithm}
    {elements : List IssuerSignedItemBytes} {ordinal : Nat} {st st' : PlanState}
    (h : planItems credentialId algorithm elements ordinal st = .ok st') :
    st.nextJobId.toNat + elements.length < 2 ^ 64 ∧
      st' = st.push credentialId algorithm ordinal (itemCommitment elements) := by
  induction elements generalizing ordinal st with
  | nil =>
    obtain rfl : st = st' := Except.ok.inj h
    refine ⟨?_, ?_⟩
    · have := st.nextJobId.toNat_lt
      simpa using this
    · rw [itemCommitment, List.map_nil, PlanState.push_nil]
  | cons t elements ih =>
    rw [planItems, Tag24.toVec_eq] at h
    cases hp : pushPlannedDigest credentialId t.inner.digestId ordinal algorithm
      (Ciborium.intoWriter t.toCbor) st with
    | error e =>
      simp [Except.mapError, bind, Except.bind, hp] at h
    | ok st₁ =>
      have h' : planItems credentialId algorithm elements (ordinal + 1) st₁ = .ok st' := by
        simpa [Except.mapError, bind, Except.bind, hp] using h
      obtain ⟨hlt, rfl⟩ := pushPlannedDigest_ok hp
      obtain ⟨hfits, rfl⟩ := ih h'
      rw [PlanState.push_nextJobId _ _ _ _ _ (by simpa using hlt)] at hfits
      refine ⟨?_, ?_⟩
      · rw [List.length_cons]
        simp only [List.length_singleton] at hfits
        omega
      · rw [PlanState.push_cons _ _ _ _ _ _ hlt]
        rfl

/-- fresh decoy ids, each over a block of random bytes -/
structure FreshDecoys (usedIds : Finset DigestId) (decoys : Commitment) : Prop where
  ids_distinct : (decoys.map Prod.fst).Nodup
  ids_fresh : ∀ e ∈ decoys, e.1 ∉ usedIds
  inputs : ∀ e ∈ decoys, e.2.length = DECOY_BYTES_LENGTH

theorem planDecoys_returns (fuel : Nat) (credentialId : UInt64) (algorithm : DigestAlgorithm)
    (count ordinal : Nat) (usedIds : Finset DigestId) (st : PlanState) :
    Returns (planDecoys fuel credentialId algorithm count ordinal usedIds st : Prepare R _)
      fun st' => ∃ decoys : Commitment, decoys.length = count ∧ FreshDecoys usedIds decoys ∧
        st.nextJobId.toNat + count < 2 ^ 64 ∧
        st' = st.push credentialId algorithm ordinal decoys := by
  induction count generalizing ordinal usedIds st with
  | zero =>
    refine Returns.pure ⟨[], rfl, ⟨List.nodup_nil, by simp, by simp⟩, ?_, ?_⟩
    · have := st.nextJobId.toNat_lt
      simpa using this
    · rw [PlanState.push_nil]
  | succ count ih =>
    rw [planDecoys]
    refine Returns.bind (generateDigestId_returns fuel usedIds) ?_
    rintro ⟨digestId, used⟩ ⟨hnew, hused⟩
    dsimp only at hnew hused ⊢
    subst hused
    refine Returns.bind (Returns.trivial _) fun bytes _ => ?_
    refine Returns.bind (Returns.ofResult fun _ h => pushPlannedDigest_ok h) fun st₁ hst => ?_
    obtain ⟨hlt, rfl⟩ := hst
    refine (ih _ _ _).mono ?_
    rintro st' ⟨decoys, hlen, hfresh, hfits, rfl⟩
    rw [PlanState.push_nextJobId _ _ _ _ _ (by simpa using hlt), List.length_singleton] at hfits
    refine ⟨(digestId, bytes) :: decoys, by rw [List.length_cons, hlen], ⟨?_, ?_, ?_⟩, by omega, ?_⟩
    · rw [List.map_cons, List.nodup_cons]
      refine ⟨fun h => ?_, hfresh.ids_distinct⟩
      obtain ⟨e, he, heq⟩ := List.mem_map.mp h
      exact hfresh.ids_fresh e he (Finset.mem_insert.mpr (Or.inl heq))
    · intro e he
      rcases List.mem_cons.mp he with rfl | he
      · exact hnew
      · exact fun h => hfresh.ids_fresh e he (Finset.mem_insert_of_mem h)
    · intro e he
      rcases List.mem_cons.mp he with rfl | he
      · exact bytes.2
      · exact hfresh.inputs e he
    · exact PlanState.push_cons _ _ _ _ _ _ hlt

/-- the number of decoys a namespace gets -/
def DecoyCount (enableDecoyDigests : Bool) (count : Nat) : Prop :=
  if enableDecoyDigests then 5 ≤ count ∧ count < 10 else count = 0

/-- **What a namespace commits to: its items, and decoys under other ids.** -/
structure Commits (enableDecoyDigests : Bool) (elements : List IssuerSignedItemBytes)
    (c : Commitment) : Prop where
  split : ∃ decoys, c = itemCommitment elements ++ decoys ∧
    DecoyCount enableDecoyDigests decoys.length ∧
    FreshDecoys (elements.map (·.inner.digestId)).toFinset decoys

theorem drawDecoyCount_returns (enableDecoyDigests : Bool) :
    Returns (drawDecoyCount enableDecoyDigests : Prepare R _) (DecoyCount enableDecoyDigests) := by
  unfold drawDecoyCount DecoyCount
  cases enableDecoyDigests with
  | false => exact Returns.pure rfl
  | true =>
    intro r k r' hr
    obtain ⟨k, -, rfl⟩ := run_map_ok.mp hr
    exact k.2

theorem planDigestNamespace_returns (fuel : Nat) (credentialId : UInt64)
    (elements : List IssuerSignedItemBytes) (algorithm : DigestAlgorithm)
    (enableDecoyDigests : Bool) (nextJobId : UInt64) (jobs : List DigestJob) :
    Returns (planDigestNamespace fuel credentialId elements algorithm enableDecoyDigests nextJobId
        jobs : Prepare R _) fun st => ∃ c, Commits enableDecoyDigests elements c ∧
      nextJobId.toNat + c.length < 2 ^ 64 ∧
      st = (⟨nextJobId, jobs, []⟩ : PlanState).push credentialId algorithm 0 c := by
  rw [planDigestNamespace]
  refine Returns.bind (drawDecoyCount_returns enableDecoyDigests) fun count hcount => ?_
  refine Returns.bind (Returns.ofResult fun _ h => planItems_ok h) fun st hst => ?_
  obtain ⟨hfits, rfl⟩ := hst
  refine (planDecoys_returns fuel _ _ _ _ _ _).mono ?_
  have hlen : (itemCommitment elements).length = elements.length := List.length_map _
  rintro st' ⟨decoys, hd, hfresh, hfits', rfl⟩
  rw [PlanState.push_nextJobId _ _ _ _ _ (by rw [hlen]; exact hfits)] at hfits'
  refine ⟨itemCommitment elements ++ decoys, ⟨decoys, rfl, hd ▸ hcount, ?_⟩, ?_, ?_⟩
  · -- without decoys the used ids are not even collected
    by_cases h0 : count > 0
    · rw [if_pos h0] at hfresh
      exact hfresh
    · have hnil : decoys = [] := List.length_eq_zero_iff.mp (by omega)
      subst hnil
      exact ⟨List.nodup_nil, by simp, by simp⟩
  · rw [List.length_append, hd]
    rw [hlen] at hfits'
    simp only at hfits'
    omega
  · rw [← PlanState.push_append]
    · rw [hlen, Nat.zero_add]
    · rw [hlen]
      exact hfits

/-- a namespace of the issued map and its commitment -/
def CommitsEntry (enableDecoyDigests : Bool)
    (entry : String × NonEmptyVec IssuerSignedItemBytes) (c : String × Commitment) : Prop :=
  c.1 = entry.1 ∧ Commits enableDecoyDigests entry.2.toList c.2

theorem planNamespaces_returns (fuel : Nat) (algorithm : DigestAlgorithm)
    (enableDecoyDigests : Bool) (entries : List (String × NonEmptyVec IssuerSignedItemBytes))
    (nextJobId : UInt64) (plan : MdocDigestPlan) :
    Returns (planNamespaces fuel algorithm enableDecoyDigests entries nextJobId plan : Prepare R _)
      fun plan' => ∃ cs, List.Forall₂ (CommitsEntry enableDecoyDigests) entries cs ∧
        nextJobId.toNat + commitCount cs < 2 ^ 64 ∧
        plan' = ⟨plan.credentialId,
          plan.namespaces ++ namespacesFrom plan.credentialId nextJobId.toNat cs,
          plan.jobs ++ allJobsFrom plan.credentialId algorithm nextJobId.toNat cs⟩ := by
  induction entries generalizing nextJobId plan with
  | nil =>
    refine Returns.pure ⟨[], List.Forall₂.nil, ?_, ?_⟩
    · exact nextJobId.toNat_lt
    · simp [namespacesFrom, allJobsFrom]
  | cons entry entries ih =>
    obtain ⟨name, elements⟩ := entry
    rw [planNamespaces]
    refine Returns.bind (planDigestNamespace_returns fuel _ _ _ _ _ _) ?_
    rintro st ⟨c, hc, hfits, rfl⟩
    refine (ih _ _).mono ?_
    rintro plan' ⟨cs, hcs, hfits', rfl⟩
    rw [PlanState.push_nextJobId _ _ _ _ _ hfits] at hfits'
    refine ⟨(name, c) :: cs, List.Forall₂.cons ⟨rfl, hc⟩ hcs, ?_, ?_⟩
    · rw [commitCount_cons]
      simp only at hfits' ⊢
      omega
    · rw [PlanState.push_nextJobId _ _ _ _ _ hfits]
      simp [PlanState.push, namespacesFrom, allJobsFrom, List.append_assoc]

/-- **Every plan is the rendering of a commitment for each namespace.** -/
theorem planDigestNamespacesForCredential_returns (fuel : Nat) (credentialId : UInt64)
    (namespaces : IssuerNamespaces) (algorithm : DigestAlgorithm) (enableDecoyDigests : Bool) :
    Returns (planDigestNamespacesForCredential fuel credentialId namespaces algorithm
        enableDecoyDigests : Prepare R _) fun plan => ∃ cs,
      List.Forall₂ (CommitsEntry enableDecoyDigests) namespaces.toMap.toList cs ∧
      commitCount cs < 2 ^ 64 ∧ plan = planFrom credentialId algorithm cs := by
  refine (planNamespaces_returns fuel _ _ _ _ _).mono ?_
  rintro plan ⟨cs, hcs, hfits, rfl⟩
  refine ⟨cs, hcs, ?_, ?_⟩
  · simpa using hfits
  · simp [planFrom]

/-- the jobs of a namespace: over the encoding of an item for each of its elements, in order, and
then over its decoys -/
structure NamespaceJobs (enableDecoyDigests : Bool) (elements : BTreeMap String Value)
    (jobs : List DigestJob) : Prop where
  inputs : ∃ (items : List IssuerSignedItemBytes) (encodings decoys : List Bytes),
    List.Forall₂ Encodes elements.toList items ∧
    List.Forall₂ (fun item encoding => toVec item = .ok encoding) items encodings ∧
    DecoyCount enableDecoyDigests decoys.length ∧
    jobs.map DigestJob.input = encodings ++ decoys

theorem jobsFrom_input (credentialId : UInt64) (algorithm : DigestAlgorithm) (n ordinal : Nat)
    (c : Commitment) :
    (jobsFrom credentialId algorithm n ordinal c).map DigestJob.input = c.map Prod.snd := by
  induction c generalizing n ordinal with
  | nil => rfl
  | cons e c ih => rw [jobsFrom, List.map_cons, List.map_cons, ih]

/-- what a namespace commits to is what its jobs hash -/
theorem Commits.namespaceJobs {enableDecoyDigests : Bool} {elements : BTreeMap String Value}
    {items : List IssuerSignedItemBytes} {c : Commitment}
    (hitems : List.Forall₂ Encodes elements.toList items) (h : Commits enableDecoyDigests items c)
    (credentialId : UInt64) (algorithm : DigestAlgorithm) (n ordinal : Nat) :
    NamespaceJobs enableDecoyDigests elements
      (jobsFrom credentialId algorithm n ordinal c) := by
  obtain ⟨decoys, rfl, hcount, -⟩ := h.split
  refine ⟨items, items.map fun t => Ciborium.intoWriter t.toCbor, decoys.map Prod.snd, hitems,
    ?_, ?_, ?_⟩
  · rw [List.forall₂_map_right_iff, List.forall₂_same]
    exact fun t _ => toVec_ok rfl
  · rwa [List.length_map]
  · rw [jobsFrom_input, List.map_append, itemCommitment, List.map_map]
    rfl

/-- the jobs of a plan, namespace by namespace -/
theorem allJobsFrom_groups {enableDecoyDigests : Bool}
    {entries : List (String × BTreeMap String Value)}
    {issued : List (String × NonEmptyVec IssuerSignedItemBytes)} {cs : List (String × Commitment)}
    (hissued : List.Forall₂ Issues entries issued)
    (hcs : List.Forall₂ (CommitsEntry enableDecoyDigests) issued cs) (credentialId : UInt64)
    (algorithm : DigestAlgorithm) (n : Nat) :
    ∃ groups, allJobsFrom credentialId algorithm n cs = groups.flatten ∧
      List.Forall₂ (fun entry jobs => NamespaceJobs enableDecoyDigests entry.2 jobs) entries
        groups := by
  induction hissued generalizing cs n with
  | nil =>
    cases hcs
    exact ⟨[], rfl, .nil⟩
  | cons hentry _ ih =>
    obtain ⟨c, cs, hc, hrest, rfl⟩ := List.forall₂_cons_left_iff.mp hcs
    obtain ⟨groups, hgroups, hjobs⟩ := ih hrest (n + c.2.length)
    refine ⟨jobsFrom credentialId algorithm n 0 c.2 :: groups, ?_, .cons ?_ hjobs⟩
    · rw [List.flatten_cons, ← hgroups]
      rfl
    · exact hc.2.namespaceJobs hentry.2.1 credentialId algorithm n 0

omit [RngCore R] [Ciborium] in
/-- every job is under the credential's id and algorithm -/
theorem mem_allJobsFrom {credentialId : UInt64} {algorithm : DigestAlgorithm}
    {cs : List (String × Commitment)} {n : Nat} {job : DigestJob}
    (h : job ∈ allJobsFrom credentialId algorithm n cs) :
    job.credentialId = credentialId ∧ job.algorithm = algorithm := by
  have hone (c : Commitment) (k ordinal : Nat)
      (h : job ∈ jobsFrom credentialId algorithm k ordinal c) :
      job.credentialId = credentialId ∧ job.algorithm = algorithm := by
    induction c generalizing k ordinal with
    | nil => cases h
    | cons e c ih =>
      rcases List.mem_cons.mp h with rfl | h
      · exact ⟨rfl, rfl⟩
      · exact ih _ _ h
  induction cs generalizing n with
  | nil => cases h
  | cons e cs ih =>
    rcases List.mem_append.mp h with h | h
    · exact hone _ _ _ h
    · exact ih h

/-- the items of every namespace carry distinct digest ids -/
def DistinctIds (namespaces : IssuerNamespaces) : Prop :=
  ∀ (name : String) (items : NonEmptyVec IssuerSignedItemBytes),
    namespaces.toMap[name]? = some items →
    (items.toList.map (·.inner.digestId)).Nodup

theorem Commits.ids_distinct {enableDecoyDigests : Bool} {elements : List IssuerSignedItemBytes}
    {c : Commitment} (h : Commits enableDecoyDigests elements c)
    (hnd : (elements.map (·.inner.digestId)).Nodup) : (c.map Prod.fst).Nodup := by
  obtain ⟨decoys, rfl, -, hfresh⟩ := h.split
  rw [List.map_append, List.nodup_append, itemCommitment_fst]
  refine ⟨hnd, hfresh.ids_distinct, ?_⟩
  rintro a ha b hb rfl
  obtain ⟨e, he, rfl⟩ := List.mem_map.mp hb
  exact hfresh.ids_fresh e he (List.mem_toFinset.mpr ha)

theorem CommitsEntry.keys {enableDecoyDigests : Bool}
    {entries : List (String × NonEmptyVec IssuerSignedItemBytes)} {cs : List (String × Commitment)}
    (h : List.Forall₂ (CommitsEntry enableDecoyDigests) entries cs) :
    cs.map Prod.fst = entries.map Prod.fst := by
  induction h with
  | nil => rfl
  | cons h _ ih => rw [List.map_cons, List.map_cons, ih, h.1]

theorem CommitsEntry.plannable {enableDecoyDigests : Bool} {namespaces : IssuerNamespaces}
    {cs : List (String × Commitment)} (hids : DistinctIds namespaces)
    (h : List.Forall₂ (CommitsEntry enableDecoyDigests) namespaces.toMap.toList cs)
    (hfits : commitCount cs < 2 ^ 64) : Plannable cs := by
  refine ⟨?_, fun e he => ?_, hfits⟩
  · rw [CommitsEntry.keys h]
    exact BTreeMap.toList_keys_nodup namespaces.toMap
  · obtain ⟨i, hi, rfl⟩ := List.getElem_of_mem he
    have hi' : i < namespaces.toMap.toList.length := h.length_eq ▸ hi
    have hrel := h.get hi' hi
    exact hrel.2.ids_distinct (hids _ _ (BTreeMap.mem_toList.mp (List.get_mem _ ⟨i, hi'⟩)))

end

end Isomdl
