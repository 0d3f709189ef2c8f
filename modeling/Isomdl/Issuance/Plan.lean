import Isomdl.Definitions.IssuerSigned
import Isomdl.DigestExecutor
import Isomdl.Lib.Returns
import Mathlib.Data.Finset.Basic
import Mathlib.Data.Finset.Dedup

/-!
# Drawing items and planning digests (`issuance/mdoc.rs`)

The issuer turns every element into an `IssuerSignedItem` under a fresh random digest id
(`toIssuerNamespaces`), and plans one digest job for every item and every decoy
(`planDigestNamespacesForCredential`).  All randomness is read here, from a generator `R`, in
the order of the code.  The redraw loop of `generateDigestId` runs on fuel: running out is
`Halt.outOfFuel`, never a result.
-/

namespace Isomdl

open Cbor

/-- the `rand` crate, as far as the issuer reads it -/
class RngCore (R : Type) where
  genI32 : R → Int32 × R
  genBytes (n : Nat) : R → {b : Bytes // b.length = n} × R
  genRange (lo hi : Nat) (h : lo < hi) : R → {k : Nat // lo ≤ k ∧ k < hi} × R
  fill (n : Nat) : R → {b : Bytes // b.length = n} × R

/-- why a preparation stops: an `anyhow` error, or a redraw loop that outlives the fuel -/
inductive Halt where
  | error (message : String)
  | outOfFuel
  deriving DecidableEq, Repr

abbrev Prepare (R : Type) := Prog R Halt

section
variable {R : Type}

def draw {α : Type} (f : R → α × R) : Prepare R α := fun r => .ok (f r)

def ofResult {α : Type} (x : Except String α) : Prepare R α := fun r =>
  match x with
  | .ok a => .ok (a, r)
  | .error e => .error (.error e)

theorem run_ofResult_ok {α : Type} {x : Except String α} {a : α} {r r' : R} :
    (ofResult x).run r = .ok (a, r') ↔ x = .ok a ∧ r' = r := by
  cases x with
  | ok b =>
    show (Except.ok (b, r) : Except Halt (α × R)) = .ok (a, r') ↔ _
    simp [eq_comm]
  | error e =>
    show (Except.error (.error e) : Except Halt (α × R)) = .ok (a, r') ↔ _
    simp

theorem Returns.ofResult {α : Type} {x : Except String α} {P : α → Prop}
    (h : ∀ a, x = .ok a → P a) : Returns (ofResult x : Prepare R α) P :=
  fun _ a _ hr => h a (run_ofResult_ok.mp hr).1

theorem Returns.draw {α : Type} {f : R → α × R} {P : α → Prop} (h : ∀ a, P a) :
    Returns (draw f : Prepare R α) P := fun _ a _ _ => h a

end

/-! ## issuer-signed items -/

section
variable {R : Type} [RngCore R] [Ciborium]

/-- `generate_digest_id`: draw until the id is not used -/
def generateDigestId : Nat → Finset DigestId → Prepare R (DigestId × Finset DigestId)
  | 0, _ => throw .outOfFuel
  | fuel + 1, usedIds => do
    let digestId := DigestId.new (← draw RngCore.genI32)
    if digestId ∈ usedIds then generateDigestId fuel usedIds
    else pure (digestId, insert digestId usedIds)

abbrev Namespaces := BTreeMap String (BTreeMap String Value)

/-- the items of one namespace, each under a digest id that no earlier one has -/
def toIssuerItems (fuel : Nat) :
    List (String × Value) → Finset DigestId → Prepare R (List IssuerSignedItemBytes)
  | [], _ => pure []
  | (key, value) :: elements, usedIds => do
    let (digestId, usedIds) ← generateDigestId fuel usedIds
    let random ← draw (RngCore.genBytes 16)
    let item ← ofResult <| (Tag24.new
        { digestId, random := ⟨random⟩, elementIdentifier := key, elementValue := value
          : IssuerSignedItem }).mapError fun err =>
      "unable to encode IssuerSignedItem as cbor: " ++ err.display
    let items ← toIssuerItems fuel elements usedIds
    pure (item :: items)

def toIssuerNamespace (fuel : Nat) (entry : String × BTreeMap String Value) :
    Prepare R (String × NonEmptyVec IssuerSignedItemBytes) := do
  let items ← toIssuerItems fuel entry.2.toList ∅
  match NonEmptyVec.tryFrom items with
  | none => throw (.error "at least one element required in each namespace")
  | some elems => pure (entry.1, elems)

/-- `to_issuer_namespaces` -/
def toIssuerNamespaces (fuel : Nat) (namespaces : Namespaces) : Prepare R IssuerNamespaces := do
  let entries ← namespaces.toList.mapM (toIssuerNamespace fuel)
  match NonEmptyMap.tryFrom (Std.ExtTreeMap.ofList entries compare) with
  | none => throw (.error "at least one namespace required")
  | some namespaces => pure namespaces

end

/-! ## digest plans -/

def MDOC_CREDENTIAL_ID : UInt64 := 0
def DECOY_BYTES_LENGTH : Nat := 512

structure PlannedMdocDigest where
  credentialId : UInt64
  jobId : UInt64
  digestId : DigestId
  deriving DecidableEq, Repr

def PlannedMdocDigest.identity (d : PlannedMdocDigest) : Identity := (d.credentialId, d.jobId)

structure PlannedMdocNamespace where
  name : String
  digests : List PlannedMdocDigest
  deriving DecidableEq, Repr

structure MdocDigestPlan where
  credentialId : UInt64
  namespaces : List PlannedMdocNamespace
  jobs : List DigestJob
  deriving DecidableEq, Repr

/-- the three `&mut` arguments of `push_planned_digest` -/
structure PlanState where
  nextJobId : UInt64
  jobs : List DigestJob
  plannedDigests : List PlannedMdocDigest
  deriving DecidableEq, Repr

/-- `push_planned_digest` -/
def pushPlannedDigest (credentialId : UInt64) (digestId : DigestId) (ordinal : Nat)
    (algorithm : DigestAlgorithm) (input : Bytes) (st : PlanState) : Except String PlanState :=
  match st.nextJobId.checkedAdd 1 with
  | none => .error "too many mdoc digest jobs"
  | some nextJobId => .ok
      { nextJobId
        jobs := st.jobs ++ [⟨credentialId, st.nextJobId, ordinal, algorithm, input⟩]
        plannedDigests := st.plannedDigests ++ [⟨credentialId, st.nextJobId, digestId⟩] }

section
variable {R : Type} [RngCore R] [Ciborium]

/-- the loop of `plan_digest_namespace` over the items, from ordinal `ordinal` on -/
def planItems (credentialId : UInt64) (algorithm : DigestAlgorithm) :
    List IssuerSignedItemBytes → Nat → PlanState → Except String PlanState
  | [], _, st => .ok st
  | item :: elements, ordinal, st => do
    let input ← (toVec item).mapError CborError.display
    let st ← pushPlannedDigest credentialId item.inner.digestId ordinal algorithm input st
    planItems credentialId algorithm elements (ordinal + 1) st

/-- the loop over the decoys: `count` of them are left, the next one has ordinal `ordinal` -/
def planDecoys (fuel : Nat) (credentialId : UInt64) (algorithm : DigestAlgorithm) :
    Nat → Nat → Finset DigestId → PlanState → Prepare R PlanState
  | 0, _, _, st => pure st
  | count + 1, ordinal, usedIds, st => do
    let (digestId, usedIds) ← generateDigestId fuel usedIds
    let bytes ← draw (RngCore.fill DECOY_BYTES_LENGTH)
    let st ← ofResult (pushPlannedDigest credentialId digestId ordinal algorithm bytes st)
    planDecoys fuel credentialId algorithm count (ordinal + 1) usedIds st

/-- `gen_range(5..10)` decoys when they are enabled -/
def drawDecoyCount (enableDecoyDigests : Bool) : Prepare R Nat :=
  if enableDecoyDigests then
    (fun k => k.1) <$> draw (RngCore.genRange 5 10 (by decide))
  else pure 0

/-- `plan_digest_namespace` -/
def planDigestNamespace (fuel : Nat) (credentialId : UInt64)
    (elements : List IssuerSignedItemBytes) (algorithm : DigestAlgorithm)
    (enableDecoyDigests : Bool) (nextJobId : UInt64) (jobs : List DigestJob) :
    Prepare R PlanState := do
  let decoyCount ← drawDecoyCount enableDecoyDigests
  let usedIds := if decoyCount > 0 then (elements.map (·.inner.digestId)).toFinset else ∅
  let st ← ofResult (planItems credentialId algorithm elements 0 ⟨nextJobId, jobs, []⟩)
  planDecoys fuel credentialId algorithm decoyCount elements.length usedIds st

/-- the loop over the namespaces, with the job counter and the plan so far -/
def planNamespaces (fuel : Nat) (algorithm : DigestAlgorithm) (enableDecoyDigests : Bool) :
    List (String × NonEmptyVec IssuerSignedItemBytes) → UInt64 → MdocDigestPlan →
      Prepare R MdocDigestPlan
  | [], _, plan => pure plan
  | (name, elements) :: namespaces, nextJobId, plan => do
    let st ← planDigestNamespace fuel plan.credentialId elements.toList algorithm
      enableDecoyDigests nextJobId plan.jobs
    planNamespaces fuel algorithm enableDecoyDigests namespaces st.nextJobId
      { plan with
        namespaces := plan.namespaces ++ [⟨name, st.plannedDigests⟩]
        jobs := st.jobs }

/-- `plan_digest_namespaces_for_credential` -/
def planDigestNamespacesForCredential (fuel : Nat) (credentialId : UInt64)
    (namespaces : IssuerNamespaces) (algorithm : DigestAlgorithm) (enableDecoyDigests : Bool) :
    Prepare R MdocDigestPlan :=
  planNamespaces fuel algorithm enableDecoyDigests namespaces.toMap.toList 0
    ⟨credentialId, [], []⟩

/-- `plan_digest_namespaces` -/
def planDigestNamespaces (fuel : Nat) (namespaces : IssuerNamespaces)
    (algorithm : DigestAlgorithm) (enableDecoyDigests : Bool) : Prepare R MdocDigestPlan :=
  planDigestNamespacesForCredential fuel MDOC_CREDENTIAL_ID namespaces algorithm
    enableDecoyDigests

end

end Isomdl
