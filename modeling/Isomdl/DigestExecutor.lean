import Isomdl.Definitions.Mso

/-!
# Digest jobs and executors (`digest_executor.rs`)

A digest executor maps a list of jobs to their identified digests.  `serialDigestExecutor` is
the oracle; an executor is `Conforming` when it returns, in any order, exactly the oracle's
results.
-/

namespace Isomdl

/-- the `sha2` crate -/
class Sha2 where
  sha256 : Bytes → {d : Bytes // d.length = 32}
  sha384 : Bytes → {d : Bytes // d.length = 48}
  sha512 : Bytes → {d : Bytes // d.length = 64}

structure DigestJob where
  credentialId : UInt64
  jobId : UInt64
  ordinal : Nat
  algorithm : DigestAlgorithm
  input : Bytes
  deriving DecidableEq, Repr

structure DigestResult where
  credentialId : UInt64
  jobId : UInt64
  ordinal : Nat
  digest : Bytes
  deriving DecidableEq, Repr

/-- `(credential_id, job_id)` -/
abbrev Identity := UInt64 × UInt64

instance : Ord Identity := lexOrd

instance : Std.TransOrd Identity :=
  inferInstanceAs (@Std.TransOrd (UInt64 × UInt64) lexOrd)

instance : Std.LawfulEqOrd Identity :=
  inferInstanceAs (@Std.LawfulEqOrd (UInt64 × UInt64) lexOrd)

def DigestJob.identity (j : DigestJob) : Identity := (j.credentialId, j.jobId)
def DigestResult.identity (r : DigestResult) : Identity := (r.credentialId, r.jobId)

/-- `digest_length` -/
def digestLength : DigestAlgorithm → Nat
  | .SHA256 => 32
  | .SHA384 => 48
  | .SHA512 => 64

/-- `DigestExecutionError` -/
def digestExecutionError : String := "digest execution failed"

/-- an implementation of the `DigestExecutor` trait; it fails only with
`digestExecutionError` -/
abbrev DigestExecutor := List DigestJob → Option (List DigestResult)

section
variable [Sha2]

def hash : DigestAlgorithm → Bytes → Bytes
  | .SHA256, input => Sha2.sha256 input
  | .SHA384, input => Sha2.sha384 input
  | .SHA512, input => Sha2.sha512 input

theorem length_hash (a : DigestAlgorithm) (input : Bytes) :
    (hash a input).length = digestLength a := by
  cases a with
  | SHA256 => exact (Sha2.sha256 input).2
  | SHA384 => exact (Sha2.sha384 input).2
  | SHA512 => exact (Sha2.sha512 input).2

/-- `execute_digest_job` -/
def executeDigestJob (j : DigestJob) : DigestResult :=
  ⟨j.credentialId, j.jobId, j.ordinal, hash j.algorithm j.input⟩

theorem identity_executeDigestJob (j : DigestJob) : (executeDigestJob j).identity = j.identity :=
  rfl

/-- `SerialDigestExecutor` -/
def serialDigestExecutor : DigestExecutor := fun jobs => some (jobs.map executeDigestJob)

/-- exactly one correct result for every job, in any order -/
def Conforming (executor : DigestExecutor) : Prop :=
  ∀ jobs, ∃ results, executor jobs = some results ∧ results.Perm (jobs.map executeDigestJob)

theorem conforming_serialDigestExecutor : Conforming serialDigestExecutor :=
  fun jobs => ⟨jobs.map executeDigestJob, rfl, List.Perm.refl _⟩

end

end Isomdl
