import Isomdl.Decoding
import Isomdl.Issuance.Batch
import Isomdl.Lib.Traced
import Isomdl.Reference

/-!
# The range of digest ids (`definitions/mso.rs`, `issuance/mdoc.rs`)

A digest id is to be an integer from 0 to 2^31 - 1.  `DigestId::new` negates a negative draw, which
leaves the range of `i32` for one draw out of 2^32, and the derived decoder takes any `i32`.

* `Tapped`, `erase_planBatchItem`        planning with its draws on record;
* `overflows_iff`                        the draw whose negation overflows;
* `batchInRange_iff`                     the runs of the planning loop;
* `itemInRange_iff`, `msoInRange_iff`    the values that are decoded;
* `digestIds_inRange_iff`                all of them;
* `negative_ids`                         a draw that overflows, and negative ids that are decoded.
-/

set_option linter.unusedSectionVars false

namespace Isomdl

open Cbor

namespace DigestId

/-- between 0 and 2^31 - 1 inclusive -/
def InRange (d : DigestId) : Prop := 0 ≤ d.toInt32.toInt ∧ d.toInt32.toInt ≤ 2 ^ 31 - 1

instance (d : DigestId) : Decidable d.InRange := inferInstanceAs (Decidable (_ ∧ _))

/-- the negation of a negative draw is no `i32` -/
def Overflows (i : Int32) : Prop := i < 0 ∧ ¬ -i.toInt ≤ 2 ^ 31 - 1

theorem overflows_iff (i : Int32) : Overflows i ↔ i = Int32.minValue := by
  have hle := i.le_toInt
  have hmin : i = Int32.minValue ↔ i.toInt = -2 ^ 31 := by
    rw [← Int32.toInt_inj]
    rfl
  have hneg : i < 0 ↔ i.toInt < 0 := Int32.lt_iff_toInt_lt
  rw [Overflows, hneg, hmin]
  omega

/-- **An id that is made without an overflow is in range.** -/
theorem inRange_new {i : Int32} (h : i ≠ Int32.minValue) : (new i).InRange := by
  have hle := i.le_toInt
  have hlt := i.toInt_lt
  have hneg : i < 0 ↔ i.toInt < 0 := Int32.lt_iff_toInt_lt
  have hfits : ¬ Overflows i := fun h' => h ((overflows_iff i).mp h')
  rw [Overflows, hneg] at hfits
  rw [new, InRange]
  by_cases hi : i < 0
  · rw [if_pos hi]
    rw [hneg] at hi
    show 0 ≤ (-i).toInt ∧ (-i).toInt ≤ 2 ^ 31 - 1
    rw [Int32.toInt_neg, Int.bmod_eq_of_le (by omega) (by omega)]
    omega
  · rw [if_neg hi]
    rw [hneg] at hi
    show 0 ≤ i.toInt ∧ i.toInt ≤ 2 ^ 31 - 1
    omega

end DigestId

open DigestId (InRange Overflows)

/-! ## planning with its draws on record -/

/-- a preparation with the integers that it draws -/
abbrev Tapped (R : Type) := TracedProg R Int32 Halt

namespace Tapped

open TracedProg (quiet erase erase_bind erase_quiet erase_mapM Keeps)

section
variable {R : Type} [RngCore R] [Ciborium]

/-- `rng.gen()` -/
def genI32 : Tapped R Int32 := fun r => Traced.call (RngCore.genI32 r).1 (.ok (RngCore.genI32 r))

def generateDigestId : Nat → Finset DigestId → Tapped R (DigestId × Finset DigestId)
  | 0, _ => quiet (throw .outOfFuel)
  | fuel + 1, usedIds => do
    let digestId := DigestId.new (← genI32)
    if digestId ∈ usedIds then generateDigestId fuel usedIds
    else pure (digestId, insert digestId usedIds)

def toIssuerItems (fuel : Nat) :
    List (String × Value) → Finset DigestId → Tapped R (List IssuerSignedItemBytes)
  | [], _ => pure []
  | (key, value) :: elements, usedIds => do
    let (digestId, usedIds) ← generateDigestId fuel usedIds
    let random ← quiet (draw (RngCore.genBytes 16))
    let item ← quiet <| ofResult <| (Tag24.new
        { digestId, random := ⟨random⟩, elementIdentifier := key, elementValue := value
          : IssuerSignedItem }).mapError fun err =>
      "unable to encode IssuerSignedItem as cbor: " ++ err.display
    let items ← toIssuerItems fuel elements usedIds
    pure (item :: items)

/-- the end of `toIssuerNamespace` -/
def nonEmptyItems (name : String) (items : List IssuerSignedItemBytes) :
    Prepare R (String × NonEmptyVec IssuerSignedItemBytes) :=
  match NonEmptyVec.tryFrom items with
  | none => throw (.error "at least one element required in each namespace")
  | some elems => pure (name, elems)

def toIssuerNamespace (fuel : Nat) (entry : String × BTreeMap String Value) :
    Tapped R (String × NonEmptyVec IssuerSignedItemBytes) := do
  let items ← toIssuerItems fuel entry.2.toList ∅
  quiet (nonEmptyItems entry.1 items)

/-- the end of `toIssuerNamespaces` -/
def nonEmptyNamespaces (entries : List (String × NonEmptyVec IssuerSignedItemBytes)) :
    Prepare R IssuerNamespaces :=
  match NonEmptyMap.tryFrom (Std.ExtTreeMap.ofList entries compare) with
  | none => throw (.error "at least one namespace required")
  | some namespaces => pure namespaces

def toIssuerNamespaces (fuel : Nat) (namespaces : Namespaces) : Tapped R IssuerNamespaces := do
  let entries ← namespaces.toList.mapM (toIssuerNamespace fuel)
  quiet (nonEmptyNamespaces entries)

def planDecoys (fuel : Nat) (credentialId : UInt64) (algorithm : DigestAlgorithm) :
    Nat → Nat → Finset DigestId → PlanState → Tapped R PlanState
  | 0, _, _, st => pure st
  | count + 1, ordinal, usedIds, st => do
    let (digestId, usedIds) ← generateDigestId fuel usedIds
    let bytes ← quiet (draw (RngCore.fill DECOY_BYTES_LENGTH))
    let st ← quiet (ofResult (pushPlannedDigest credentialId digestId ordinal algorithm bytes st))
    planDecoys fuel credentialId algorithm count (ordinal + 1) usedIds st

def planDigestNamespace (fuel : Nat) (credentialId : UInt64)
    (elements : List IssuerSignedItemBytes) (algorithm : DigestAlgorithm)
    (enableDecoyDigests : Bool) (nextJobId : UInt64) (jobs : List DigestJob) :
    Tapped R PlanState := do
  let decoyCount ← quiet (drawDecoyCount enableDecoyDigests)
  let usedIds := if decoyCount > 0 then (elements.map (·.inner.digestId)).toFinset else ∅
  let st ← quiet (ofResult (planItems credentialId algorithm elements 0 ⟨nextJobId, jobs, []⟩))
  planDecoys fuel credentialId algorithm decoyCount elements.length usedIds st

def planNamespaces (fuel : Nat) (algorithm : DigestAlgorithm) (enableDecoyDigests : Bool) :
    List (String × NonEmptyVec IssuerSignedItemBytes) → UInt64 → MdocDigestPlan →
      Tapped R MdocDigestPlan
  | [], _, plan => pure plan
  | (name, elements) :: namespaces, nextJobId, plan => do
    let st ← planDigestNamespace fuel plan.credentialId elements.toList algorithm
      enableDecoyDigests nextJobId plan.jobs
    planNamespaces fuel algorithm enableDecoyDigests namespaces st.nextJobId
      { plan with
        namespaces := plan.namespaces ++ [⟨name, st.plannedDigests⟩]
        jobs := st.jobs }

def planBatchItem (fuel : Nat) (item : ValidatedMdocBatchItem) :
    Tapped R (PlannedMdocBatchItem × MdocDigestPlan) := do
  let issuerNamespaces ← toIssuerNamespaces fuel item.namespaces
  let digestPlan ← planNamespaces fuel item.digestAlgorithm item.enableDecoyDigests
    issuerNamespaces.toMap.toList 0 ⟨item.credentialId, [], []⟩
  pure (item.planned issuerNamespaces, digestPlan)

/-! ## the record changes nothing -/

theorem erase_genI32 : erase (genI32 : Tapped R Int32) = draw RngCore.genI32 := rfl

theorem erase_generateDigestId (fuel : Nat) (usedIds : Finset DigestId) :
    erase (generateDigestId fuel usedIds : Tapped R _) = Isomdl.generateDigestId fuel usedIds := by
  induction fuel with
  | zero => rfl
  | succ fuel ih =>
    rw [generateDigestId, Isomdl.generateDigestId, erase_bind, erase_genI32]
    congr 1
    funext i
    show erase (if DigestId.new i ∈ usedIds then _ else _) = if DigestId.new i ∈ usedIds then _ else _
    by_cases h : DigestId.new i ∈ usedIds
    · rw [if_pos h, if_pos h]
      exact ih
    · rw [if_neg h, if_neg h]
      rfl

theorem erase_toIssuerItems (fuel : Nat) (elements : List (String × Value))
    (usedIds : Finset DigestId) :
    erase (toIssuerItems fuel elements usedIds : Tapped R _) =
      Isomdl.toIssuerItems fuel elements usedIds := by
  induction elements generalizing usedIds with
  | nil => rfl
  | cons element elements ih =>
    obtain ⟨key, value⟩ := element
    rw [toIssuerItems, Isomdl.toIssuerItems, erase_bind, erase_generateDigestId]
    congr 1
    funext p
    obtain ⟨digestId, usedIds⟩ := p
    simp only [erase_bind, erase_quiet, ih]
    rfl

theorem erase_toIssuerNamespaces (fuel : Nat) (namespaces : Namespaces) :
    erase (toIssuerNamespaces fuel namespaces : Tapped R _) =
      Isomdl.toIssuerNamespaces fuel namespaces := by
  rw [toIssuerNamespaces, Isomdl.toIssuerNamespaces, erase_bind]
  congr 1
  refine erase_mapM _ fun entry _ => ?_
  rw [toIssuerNamespace, Isomdl.toIssuerNamespace, erase_bind, erase_toIssuerItems]
  rfl

theorem erase_planDecoys (fuel : Nat) (credentialId : UInt64) (algorithm : DigestAlgorithm)
    (count ordinal : Nat) (usedIds : Finset DigestId) (st : PlanState) :
    erase (planDecoys fuel credentialId algorithm count ordinal usedIds st : Tapped R _) =
      Isomdl.planDecoys fuel credentialId algorithm count ordinal usedIds st := by
  induction count generalizing ordinal usedIds st with
  | zero => rfl
  | succ count ih =>
    rw [planDecoys, Isomdl.planDecoys, erase_bind, erase_generateDigestId]
    congr 1
    funext p
    obtain ⟨digestId, usedIds⟩ := p
    simp only [erase_bind, erase_quiet, ih]

theorem erase_planNamespaces (fuel : Nat) (algorithm : DigestAlgorithm) (enableDecoyDigests : Bool)
    (entries : List (String × NonEmptyVec IssuerSignedItemBytes)) (nextJobId : UInt64)
    (plan : MdocDigestPlan) :
    erase (planNamespaces fuel algorithm enableDecoyDigests entries nextJobId plan : Tapped R _) =
      Isomdl.planNamespaces fuel algorithm enableDecoyDigests entries nextJobId plan := by
  induction entries generalizing nextJobId plan with
  | nil => rfl
  | cons entry entries ih =>
    obtain ⟨name, elements⟩ := entry
    rw [planNamespaces, Isomdl.planNamespaces, planDigestNamespace, Isomdl.planDigestNamespace]
    simp only [erase_bind, erase_quiet, erase_planDecoys, ih]

/-- **Planning with its draws on record returns what planning returns.** -/
theorem erase_planBatchItem (fuel : Nat) (item : ValidatedMdocBatchItem) :
    erase (planBatchItem fuel item : Tapped R _) = Isomdl.planBatchItem fuel item := by
  rw [planBatchItem, Isomdl.planBatchItem, erase_bind, erase_toIssuerNamespaces]
  congr 1
  funext issued
  rw [erase_bind, erase_planNamespaces]
  rfl

/-! ## ids in range -/

/-- the draws of a run whose negations do not overflow -/
abbrev KeepsRange {α : Type} (m : Tapped R α) (P : α → Prop) : Prop :=
  Keeps (fun i => i ≠ Int32.minValue) m P

theorem keeps_genI32 : KeepsRange (genI32 : Tapped R Int32) fun i => i ≠ Int32.minValue := by
  intro r hcalls i r' hr
  have hdraw : RngCore.genI32 r = (i, r') := Except.ok.inj hr
  have hgood := hcalls (RngCore.genI32 r).1 List.mem_cons_self
  rw [hdraw] at hgood
  exact hgood

theorem keeps_generateDigestId (fuel : Nat) (usedIds : Finset DigestId) :
    KeepsRange (generateDigestId fuel usedIds : Tapped R _) fun p => p.1.InRange := by
  induction fuel with
  | zero => exact Keeps.quiet Returns.throw
  | succ fuel ih =>
    rw [generateDigestId]
    refine Keeps.bind keeps_genI32 fun i hi => ?_
    exact Keeps.ite (fun _ => ih) fun _ => Keeps.pure (DigestId.inRange_new hi)

/-- the ids of issued items -/
def ItemsInRange (items : List IssuerSignedItemBytes) : Prop :=
  ∀ item ∈ items, item.inner.digestId.InRange

theorem keeps_toIssuerItems (fuel : Nat) (elements : List (String × Value))
    (usedIds : Finset DigestId) :
    KeepsRange (toIssuerItems fuel elements usedIds : Tapped R _) ItemsInRange := by
  induction elements generalizing usedIds with
  | nil => exact Keeps.pure fun item hitem => absurd hitem List.not_mem_nil
  | cons element elements ih =>
    obtain ⟨key, value⟩ := element
    rw [toIssuerItems]
    refine Keeps.bind (keeps_generateDigestId fuel usedIds) fun p hp => ?_
    obtain ⟨digestId, used⟩ := p
    refine Keeps.bind (Keeps.quiet (Returns.trivial _)) fun random _ => ?_
    refine Keeps.bind (Keeps.quiet (newItem_returns _ _)) fun item hitem => ?_
    refine Keeps.bind (ih used) fun items hitems => Keeps.pure ?_
    have hid : item.inner.digestId.InRange := by
      rw [hitem.1]
      exact hp
    exact List.forall_mem_cons.mpr ⟨hid, hitems⟩

theorem nonEmptyItems_returns (name : String) (items : List IssuerSignedItemBytes) :
    Returns (nonEmptyItems name items : Prepare R _) fun entry => entry.2.toList = items := by
  rw [nonEmptyItems]
  split
  · exact Returns.throw
  · next elems h => exact Returns.pure (NonEmptyVec.tryFrom_eq_some.mp h).symm

theorem nonEmptyNamespaces_returns
    (entries : List (String × NonEmptyVec IssuerSignedItemBytes)) :
    Returns (nonEmptyNamespaces entries : Prepare R _) fun issued =>
      issued.toMap = Std.ExtTreeMap.ofList entries compare := by
  rw [nonEmptyNamespaces]
  split
  · exact Returns.throw
  · next issued h => exact Returns.pure (NonEmptyMap.tryFrom_eq_some.mp h).symm

/-- the ids of issued namespaces -/
def IssuedInRange (issued : IssuerNamespaces) : Prop :=
  ∀ (name : String) (items : NonEmptyVec IssuerSignedItemBytes),
    issued.toMap[name]? = some items → ItemsInRange items.toList

theorem keeps_toIssuerNamespaces (fuel : Nat) (namespaces : Namespaces) :
    KeepsRange (toIssuerNamespaces fuel namespaces : Tapped R _) IssuedInRange := by
  rw [toIssuerNamespaces]
  have hentry (entry : String × BTreeMap String Value) :
      KeepsRange (toIssuerNamespace fuel entry : Tapped R _) fun e => ItemsInRange e.2.toList := by
    rw [toIssuerNamespace]
    refine Keeps.bind (keeps_toIssuerItems fuel _ ∅) fun items hitems => Keeps.quiet ?_
    refine (nonEmptyItems_returns _ items).mono fun e he => ?_
    rw [he]
    exact hitems
  refine Keeps.bind (Keeps.mapM _ fun entry _ => hentry entry) fun entries hentries => ?_
  refine Keeps.quiet ((nonEmptyNamespaces_returns entries).mono fun issued hissued => ?_)
  intro name items hget
  rw [hissued] at hget
  exact hentries (name, items) (BTreeMap.mem_of_getElem?_ofList hget)

/-- the ids of planned digests -/
def DigestsInRange (digests : List PlannedMdocDigest) : Prop :=
  ∀ digest ∈ digests, digest.digestId.InRange

theorem digestsInRange_push {credentialId : UInt64} {digestId : DigestId} {ordinal : Nat}
    {algorithm : DigestAlgorithm} {input : Bytes} {st st' : PlanState}
    (h : pushPlannedDigest credentialId digestId ordinal algorithm input st = .ok st')
    (hid : digestId.InRange) (hst : DigestsInRange st.plannedDigests) :
    DigestsInRange st'.plannedDigests := by
  obtain ⟨-, rfl⟩ := pushPlannedDigest_ok h
  intro digest hdigest
  rcases List.mem_append.mp hdigest with hdigest | hdigest
  · exact hst digest hdigest
  · obtain rfl := List.mem_singleton.mp hdigest
    exact hid

theorem digestsInRange_planItems {credentialId : UInt64} {algorithm : DigestAlgorithm}
    {elements : List IssuerSignedItemBytes} {ordinal : Nat} {st st' : PlanState}
    (h : planItems credentialId algorithm elements ordinal st = .ok st')
    (hids : ItemsInRange elements) (hst : DigestsInRange st.plannedDigests) :
    DigestsInRange st'.plannedDigests := by
  induction elements generalizing ordinal st with
  | nil =>
    cases h
    exact hst
  | cons item elements ih =>
    obtain ⟨hid, hids⟩ := List.forall_mem_cons.mp hids
    rw [planItems] at h
    obtain ⟨input, -, h⟩ := bind_eq_ok h
    obtain ⟨st₁, hpush, h⟩ := bind_eq_ok h
    exact ih h hids (digestsInRange_push hpush hid hst)

theorem keeps_planDecoys (fuel : Nat) (credentialId : UInt64) (algorithm : DigestAlgorithm)
    (count ordinal : Nat) (usedIds : Finset DigestId) (st : PlanState)
    (hst : DigestsInRange st.plannedDigests) :
    KeepsRange (planDecoys fuel credentialId algorithm count ordinal usedIds st : Tapped R _)
      fun st' => DigestsInRange st'.plannedDigests := by
  induction count generalizing ordinal usedIds st with
  | zero => exact Keeps.pure hst
  | succ count ih =>
    rw [planDecoys]
    refine Keeps.bind (keeps_generateDigestId fuel usedIds) fun p hp => ?_
    obtain ⟨digestId, used⟩ := p
    refine Keeps.bind (Keeps.quiet (Returns.trivial _)) fun bytes _ => ?_
    refine Keeps.bind (Keeps.quiet (Returns.ofResult fun _ h => h)) fun st₁ hpush => ?_
    exact ih _ _ _ (digestsInRange_push hpush hp hst)

/-- the ids of a plan -/
def PlanInRange (plan : MdocDigestPlan) : Prop :=
  ∀ ns ∈ plan.namespaces, DigestsInRange ns.digests

theorem keeps_planNamespaces (fuel : Nat) (algorithm : DigestAlgorithm) (enableDecoyDigests : Bool)
    (entries : List (String × NonEmptyVec IssuerSignedItemBytes)) (nextJobId : UInt64)
    (plan : MdocDigestPlan) (hentries : ∀ entry ∈ entries, ItemsInRange entry.2.toList)
    (hplan : PlanInRange plan) :
    KeepsRange (planNamespaces fuel algorithm enableDecoyDigests entries nextJobId plan :
      Tapped R _) PlanInRange := by
  induction entries generalizing nextJobId plan with
  | nil => exact Keeps.pure hplan
  | cons entry entries ih =>
    obtain ⟨name, elements⟩ := entry
    obtain ⟨hentry, hentries⟩ := List.forall_mem_cons.mp hentries
    rw [planNamespaces, planDigestNamespace]
    refine Keeps.bind (Q := fun st => DigestsInRange st.plannedDigests) ?_ fun st hst => ?_
    · refine Keeps.bind (Keeps.quiet (Returns.trivial _)) fun count _ => ?_
      refine Keeps.bind (Keeps.quiet (Returns.ofResult fun _ h => h)) fun st hitems => ?_
      refine keeps_planDecoys fuel _ _ _ _ _ st ?_
      exact digestsInRange_planItems hitems hentry fun d hd => absurd hd List.not_mem_nil
    · refine ih _ _ hentries ?_
      intro ns hns
      rcases List.mem_append.mp hns with hns | hns
      · exact hplan ns hns
      · obtain rfl := List.mem_singleton.mp hns
        exact hst

/-- the ids of a planned credential -/
def CredentialInRange (planned : PlannedMdocBatchItem × MdocDigestPlan) : Prop :=
  IssuedInRange planned.1.issuerNamespaces ∧ PlanInRange planned.2

theorem keeps_planBatchItem (fuel : Nat) (item : ValidatedMdocBatchItem) :
    KeepsRange (planBatchItem fuel item : Tapped R _) CredentialInRange := by
  rw [planBatchItem]
  refine Keeps.bind (keeps_toIssuerNamespaces fuel item.namespaces) fun issued hissued => ?_
  refine Keeps.bind (keeps_planNamespaces fuel _ _ _ _ _ ?_ ?_) fun plan hplan => Keeps.pure ?_
  · exact fun entry hentry => hissued entry.1 entry.2 (BTreeMap.mem_toList.mp hentry)
  · exact fun ns hns => absurd hns List.not_mem_nil
  · exact ⟨hissued, hplan⟩

end

end Tapped

section
variable {R : Type} [RngCore R] [Ciborium]

/-- the integers that the planning loop of a batch draws -/
def batchDraws (fuel : Nat) (batch : List ValidatedMdocBatchItem) (rng : R) : List Int32 :=
  ((batch.mapM (Tapped.planBatchItem fuel)).run rng).calls

/-- **The planning loop stays in range**: nothing overflows, also in a run that ends without a
result, and the ids of its items and of its decoys are in range. -/
structure BatchInRange (fuel : Nat) (batch : List ValidatedMdocBatchItem) (rng : R) : Prop where
  no_overflow : ∀ i ∈ batchDraws fuel batch rng, ¬ Overflows i
  ids : ∀ planned rng', (batch.mapM (planBatchItem fuel)).run rng = .ok (planned, rng') →
    ∀ credential ∈ planned, Tapped.CredentialInRange credential

theorem batchInRange_iff (fuel : Nat) (batch : List ValidatedMdocBatchItem) (rng : R) :
    BatchInRange fuel batch rng ↔ ∀ i ∈ batchDraws fuel batch rng, i ≠ Int32.minValue := by
  constructor
  · intro h i hi hmin
    exact h.no_overflow i hi ((DigestId.overflows_iff i).mpr hmin)
  · intro h
    refine ⟨fun i hi hoverflow => h i hi ((DigestId.overflows_iff i).mp hoverflow), ?_⟩
    intro planned rng' hrun
    have herase : TracedProg.erase (batch.mapM (Tapped.planBatchItem fuel : _ → Tapped R _)) =
        batch.mapM (planBatchItem fuel) :=
      TracedProg.erase_mapM batch fun item _ => Tapped.erase_planBatchItem fuel item
    rw [← herase] at hrun
    exact TracedProg.Keeps.mapM batch (fun item _ => Tapped.keeps_planBatchItem fuel item) rng h
      planned rng' hrun

/-- the single path draws what a batch of its item draws -/
theorem planSingle_eq (fuel : Nat) (item : ValidatedMdocBatchItem) :
    (planSingle fuel item : Prepare R _) =
      (fun planned => ({ planned.1 with credentialId := item.credentialId }, planned.2)) <$>
        planBatchItem fuel { item with credentialId := MDOC_CREDENTIAL_ID } := by
  rw [planSingle, planBatchItem, map_bind]
  congr 1
  funext issued
  rw [map_bind]
  rfl

end

/-! ## decoded ids -/

def NegativeInteger (w : Value) : Prop := ∃ i, w.integer? = some i ∧ i < 0

/-- a map with a key that is a negative integer -/
def NegativeKey (w : Value) : Prop :=
  ∃ rows, w.untagged = .map rows ∧ ∃ row ∈ rows, NegativeInteger row.1

/-- the field `digestID` is a negative integer -/
def NegativeItemId (v : Value) : Prop :=
  ∃ fields, v.untagged = .map fields ∧
    ∃ field ∈ fields, isField "digestID" field.1 = true ∧ NegativeInteger field.2

/-- the name that a key denotes -/
def nameOf (k : Value) : Option String := (ofValue k : Except String String).toOption

/-- the field `valueDigests` has a table with a key that is a negative integer; the last table of a
name counts -/
def NegativeTableId (v : Value) : Prop :=
  ∃ fields, v.untagged = .map fields ∧
    ∃ field ∈ fields, isField "valueDigests" field.1 = true ∧
      ∃ tables, field.2.untagged = .map tables ∧
        ∃ name table, BTreeMap.lastBy nameOf tables name = some table ∧ NegativeKey table

theorem inRange_of_ofValue {w : Value} {d : DigestId}
    (h : (ofValue w : Except String DigestId) = .ok d) : d.InRange ↔ ¬ NegativeInteger w := by
  obtain ⟨i, hi, rfl⟩ := map_eq_ok h
  rw [boundedInt] at hi
  cases hw : w.integer? with
  | none =>
    rw [hw] at hi
    cases hi
  | some j =>
    rw [hw] at hi
    simp only at hi
    split at hi
    · next hbounds =>
      cases hi
      have hnegative : NegativeInteger w ↔ i < 0 := by
        rw [NegativeInteger, hw]
        simp
      rw [hnegative, InRange]
      show 0 ≤ (Int32.ofInt i).toInt ∧ (Int32.ofInt i).toInt ≤ 2 ^ 31 - 1 ↔ _
      rw [Int32.toInt_ofInt_of_le hbounds.1 (by omega)]
      omega
    · cases hi

theorem fields_of_ofValue {name : String} {v : Value} {fields : Fields}
    (h : Fields.ofValue name v = .ok fields) : v.untagged = .map fields := by
  rw [Fields.ofValue] at h
  split at h
  · next entries hv =>
    split at h
    · cases h
      exact hv
    · cases h
  · cases h

/-- **A required field is one entry.** -/
theorem field_of_required {fields : Fields} {name : String} {α : Type} [Deserialize α] {a : α}
    (h : fields.required name α = .ok a) :
    ∃ w, (∀ e ∈ fields, isField name e.1 = true → e.2 = w) ∧
      (∃ e ∈ fields, isField name e.1 = true ∧ e.2 = w) ∧ ofValue w = .ok a := by
  obtain ⟨o, hfind, h⟩ := bind_eq_ok h
  rw [Fields.find?] at hfind
  split at hfind
  · cases hfind
    cases h
  · next e hfilter =>
    cases hfind
    have hmem (e' : Value × Value) : e' ∈ fields ∧ isField name e'.1 = true ↔ e' = e := by
      have hiff : e' ∈ fields.filter (fun e => isField name e.1) ↔
          e' ∈ fields ∧ isField name e'.1 = true := List.mem_filter
      rw [← hiff, hfilter, List.mem_singleton]
    refine ⟨e.2, ?_, ⟨e, ((hmem e).mpr rfl).1, ((hmem e).mpr rfl).2, rfl⟩, h⟩
    exact fun e' he' hname => congrArg Prod.snd ((hmem e').mp ⟨he', hname⟩)
  · cases hfind

/-- a property of the one entry with a name -/
theorem exists_field_iff {v : Value} {fields : Fields} {name : String} {w : Value}
    (hv : v.untagged = .map fields) (hall : ∀ e ∈ fields, isField name e.1 = true → e.2 = w)
    (hsome : ∃ e ∈ fields, isField name e.1 = true ∧ e.2 = w) {P : Value → Prop} :
    (∃ fields', v.untagged = .map fields' ∧ ∃ e ∈ fields', isField name e.1 = true ∧ P e.2) ↔
      P w := by
  constructor
  · rintro ⟨fields', hv', e, he, hname, hP⟩
    rw [hv] at hv'
    cases hv'
    rw [← hall e he hname]
    exact hP
  · intro hP
    obtain ⟨e, he, hname, rfl⟩ := hsome
    exact ⟨fields, hv, e, he, hname, hP⟩

/-- **The id of a decoded item.** -/
theorem itemInRange_iff {v : Value} {item : IssuerSignedItem}
    (h : (ofValue v : Except String IssuerSignedItem) = .ok item) :
    item.digestId.InRange ↔ ¬ NegativeItemId v := by
  obtain ⟨fields, hfields, h⟩ := bind_eq_ok h
  obtain ⟨digestId, hid, h⟩ := bind_eq_ok h
  obtain ⟨random, -, h⟩ := bind_eq_ok h
  obtain ⟨elementIdentifier, -, h⟩ := bind_eq_ok h
  obtain ⟨elementValue, -, h⟩ := bind_eq_ok h
  cases h
  obtain ⟨w, hall, hsome, hw⟩ := field_of_required hid
  rw [NegativeItemId, exists_field_iff (fields_of_ofValue hfields) hall hsome (P := NegativeInteger)]
  exact inRange_of_ofValue hw

/-- the entries of a decoded map -/
theorem entries_of_ofValue {K V : Type} [Ord K] [Std.TransOrd K] [Deserialize K] [Deserialize V]
    {v : Value} {m : BTreeMap K V} (h : (ofValue v : Except String (BTreeMap K V)) = .ok m) :
    ∃ entries out, v.untagged = .map entries ∧ m = Std.ExtTreeMap.ofList out compare ∧
      List.Forall₂ (fun (e : Value × Value) (o : K × V) =>
        ofValue e.1 = .ok o.1 ∧ ofValue e.2 = .ok o.2) entries out := by
  simp only [ofValue] at h
  split at h
  · next entries hv =>
    obtain ⟨out, hout, h⟩ := bind_eq_ok h
    cases h
    refine ⟨entries, out, hv, rfl, (mapM_forall₂ hout).imp ?_⟩
    intro e o ho
    obtain ⟨k, hk, ho⟩ := bind_eq_ok ho
    obtain ⟨x, hx, ho⟩ := bind_eq_ok ho
    cases ho
    exact ⟨hk, hx⟩
  · cases h

/-- the keys of a decoded table -/
theorem keysInRange_iff {w : Value} {ids : DigestIds}
    (h : (ofValue w : Except String DigestIds) = .ok ids) :
    (∀ d ∈ ids, d.InRange) ↔ ¬ NegativeKey w := by
  obtain ⟨rows, out, hrows, rfl, hall⟩ := entries_of_ofValue h
  have hkeys : (∀ d ∈ (Std.ExtTreeMap.ofList out compare : DigestIds), d.InRange) ↔
      ∀ row ∈ rows, ¬ NegativeInteger row.1 := by
    simp only [BTreeMap.mem_ofList, List.forall_mem_map]
    clear h hrows
    induction hall with
    | nil => simp
    | cons hrow _ ih => rw [List.forall_mem_cons, List.forall_mem_cons, ih, inRange_of_ofValue hrow.1]
  rw [hkeys, NegativeKey]
  constructor
  · rintro hrange ⟨rows', hrows', row, hrow, hnegative⟩
    rw [hrows] at hrows'
    cases hrows'
    exact hrange row hrow hnegative
  · exact fun hnone row hrow hnegative => hnone ⟨rows, hrows, row, hrow, hnegative⟩

/-- **The ids of a decoded security object.** -/
theorem msoInRange_iff [Rfc3339] {v : Value} {mso : Mso}
    (h : (ofValue v : Except String Mso) = .ok mso) :
    (∀ (name : String) (ids : DigestIds),
        mso.valueDigests[name]? = some ids → ∀ d ∈ ids, d.InRange) ↔
      ¬ NegativeTableId v := by
  obtain ⟨fields, hfields, h⟩ := bind_eq_ok h
  obtain ⟨version, -, h⟩ := bind_eq_ok h
  obtain ⟨digestAlgorithm, -, h⟩ := bind_eq_ok h
  obtain ⟨valueDigests, hdigests, h⟩ := bind_eq_ok h
  obtain ⟨deviceKeyInfo, -, h⟩ := bind_eq_ok h
  obtain ⟨docType, -, h⟩ := bind_eq_ok h
  obtain ⟨validityInfo, -, h⟩ := bind_eq_ok h
  cases h
  obtain ⟨w, hall, hsome, hw⟩ := field_of_required hdigests
  obtain ⟨tables, out, htables, rfl, hread⟩ := entries_of_ofValue hw
  rw [NegativeTableId, exists_field_iff (fields_of_ofValue hfields) hall hsome (P := fun w =>
    ∃ tables, w.untagged = .map tables ∧
      ∃ name table, BTreeMap.lastBy nameOf tables name = some table ∧ NegativeKey table)]
  have hlast (name : String) : Option.Rel
      (fun table ids => (ofValue table : Except String DigestIds) = .ok ids)
      (BTreeMap.lastBy nameOf tables name)
      (Std.ExtTreeMap.ofList out compare : BTreeMap String DigestIds)[name]? := by
    refine BTreeMap.rel_lastBy_ofList (hread.imp ?_) name
    intro e o ho
    refine ⟨?_, ho.2⟩
    rw [nameOf, ho.1]
    rfl
  constructor
  · rintro hrange ⟨tables', htables', name, table, htable, hnegative⟩
    rw [htables] at htables'
    cases htables'
    have hrel := hlast name
    rw [htable] at hrel
    generalize hids : (Std.ExtTreeMap.ofList out compare : BTreeMap String DigestIds)[name]? = o
      at hrel
    cases hrel with
    | some hdecoded => exact (keysInRange_iff hdecoded).mp (hrange name _ hids) hnegative
  · intro hnone name ids hids
    have hrel := hlast name
    rw [hids] at hrel
    generalize htable : BTreeMap.lastBy nameOf tables name = o at hrel
    cases hrel with
    | some hdecoded =>
      refine (keysInRange_iff hdecoded).mpr fun hnegative => ?_
      exact hnone ⟨tables, htables, name, _, htable, hnegative⟩

/-- **Digest ids are in range exactly** in the runs of the planning loop that do not draw
-2^31, and in the decoded items and security objects whose ids are not negative. -/
theorem digestIds_inRange_iff {R : Type} [RngCore R] [Ciborium] [Rfc3339] :
    (∀ fuel batch (rng : R),
      BatchInRange fuel batch rng ↔ ∀ i ∈ batchDraws fuel batch rng, i ≠ Int32.minValue) ∧
    (∀ v item, (ofValue v : Except String IssuerSignedItem) = .ok item →
      (item.digestId.InRange ↔ ¬ NegativeItemId v)) ∧
    ∀ v mso, (ofValue v : Except String Mso) = .ok mso →
      ((∀ (name : String) (ids : DigestIds),
        mso.valueDigests[name]? = some ids → ∀ d ∈ ids, d.InRange) ↔
        ¬ NegativeTableId v) :=
  ⟨batchInRange_iff, fun _ _ h => itemInRange_iff h, fun _ _ h => msoInRange_iff h⟩

/-! ### concrete ids -/

section
open scoped Reference

/-- an item under a digest id -/
def sampleItemValue (id : Value) : Value :=
  .map [(.text "digestID", id), (.text "random", .bytes [1, 2]),
    (.text "elementIdentifier", .text "family_name"), (.text "elementValue", .text "Doe")]

/-- a security object with one digest -/
def sampleMsoValue (id : Value) : Value :=
  .map [(.text "version", .text "1.0"), (.text "digestAlgorithm", .text "SHA-256"),
    (.text "valueDigests", .map [(.text "org.iso.18013.5.1", .map [(id, .bytes [3])])]),
    (.text "deviceKeyInfo", .map [(.text "deviceKey", (CoseKey.EC2 .P256 [1] (.signBit true)).toCbor)]),
    (.text "docType", .text "org.iso.18013.5.1.mDL"),
    (.text "validityInfo", .map [(.text "signed", .tag 0 (.text "2020-01-01T00:00:00Z")),
      (.text "validFrom", .tag 0 (.text "2020-01-01T00:00:00Z")),
      (.text "validUntil", .tag 0 (.text "2021-01-01T00:00:00Z"))])]

/-- a batch of two whose draws are from 2^31 + 3 on, and an item under id 7 -/
theorem digestIds_inRange_iff_counter :
    BatchInRange 3 Sample.validated (⟨2 ^ 31 + 3⟩ : Reference.Counter) ∧
      ∀ item, (ofValue (sampleItemValue (.int 7)) : Except String IssuerSignedItem) = .ok item →
        item.digestId.InRange := by
  obtain ⟨hbatch, hitem, -⟩ := digestIds_inRange_iff (R := Reference.Counter)
  have hnone : Int32.minValue ∉ batchDraws 3 Sample.validated (⟨2 ^ 31 + 3⟩ : Reference.Counter) := by
    decide +kernel
  have hdraws : ∀ i ∈ batchDraws 3 Sample.validated (⟨2 ^ 31 + 3⟩ : Reference.Counter),
      i ≠ Int32.minValue := by
    intro i hi h
    rw [h] at hi
    exact hnone hi
  refine ⟨(hbatch 3 Sample.validated _).mpr hdraws, fun item h => (hitem _ item h).mpr ?_⟩
  rintro ⟨fields, hfields, field, hfield, hname, i, hi, hnegative⟩
  cases hfields
  simp only [List.mem_cons, List.not_mem_nil, or_false] at hfield
  rcases hfield with rfl | rfl | rfl | rfl
  · cases hi
    exact absurd hnegative (by decide)
  · exact absurd hname (by decide)
  · exact absurd hname (by decide)
  · exact absurd hname (by decide)

/-- the draw -2^31 overflows, and the ids -1 are decoded -/
theorem negative_ids :
    ((∃ i ∈ batchDraws 3 Sample.validated (⟨2 ^ 31⟩ : Reference.Counter), Overflows i) ∧
      ¬ BatchInRange 3 Sample.validated (⟨2 ^ 31⟩ : Reference.Counter)) ∧
    (∃ item, (ofValue (sampleItemValue (.int (-1))) : Except String IssuerSignedItem) = .ok item ∧
      ¬ item.digestId.InRange) ∧
    ∃ mso ids, (ofValue (sampleMsoValue (.int (-1))) : Except String Mso) = .ok mso ∧
      mso.valueDigests["org.iso.18013.5.1"]? = some ids ∧ ∃ d ∈ ids, ¬ d.InRange := by
  have hdraw : Int32.minValue ∈ batchDraws 3 Sample.validated (⟨2 ^ 31⟩ : Reference.Counter) := by
    decide +kernel
  have hoverflow : Overflows Int32.minValue := (DigestId.overflows_iff _).mpr rfl
  refine ⟨⟨⟨_, hdraw, hoverflow⟩, fun h => h.no_overflow _ hdraw hoverflow⟩, ?_, ?_⟩
  · exact ⟨⟨⟨-1⟩, ⟨[1, 2]⟩, "family_name", .text "Doe"⟩, by decide +kernel, by decide⟩
  · have hmso : ((ofValue (sampleMsoValue (.int (-1))) : Except String Mso).toOption.any fun mso =>
        mso.valueDigests["org.iso.18013.5.1"]?.any fun ids => ids.contains ⟨-1⟩) = true := by
      decide +kernel
    cases hdecoded : (ofValue (sampleMsoValue (.int (-1))) : Except String Mso) with
    | error e =>
      rw [hdecoded] at hmso
      cases hmso
    | ok mso =>
      rw [hdecoded] at hmso
      obtain ⟨ids, hids, hcontains⟩ := (Option.any_eq_true _ _).mp
        (show mso.valueDigests["org.iso.18013.5.1"]?.any (fun ids => ids.contains ⟨-1⟩) = true
          from hmso)
      exact ⟨mso, ids, rfl, hids, ⟨-1⟩, hcontains, by decide⟩

end

end Isomdl
