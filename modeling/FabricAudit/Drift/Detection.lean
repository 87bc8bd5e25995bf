import FabricAudit.Drift.Snapshot
import FabricAudit.Drift.Summary
import FabricAudit.LineDiff.Hunk
import FabricAudit.Verdict.Subject

set_option autoImplicit false

/-! # Detecting drift

Taking snapshots of a fabric, finding out which running configurations are not the desired ones,
and holding both against a baseline. Hosts are no part of the fabric and are not asked anything.
Unlike a run of checks, detection ends at the first fault.
-/

namespace FabricAudit

structure DriftOutcome where
  current : Snapshot
  state : List Difference
  config : List ConfigFinding

namespace DriftOutcome

def hasDrift (o : DriftOutcome) : Bool := !o.state.isEmpty || !o.config.isEmpty

def summary (o : DriftOutcome) : Summary := Drift.summary o.state o.config

/-- The report of an outcome: that of its summary, with all that was found. -/
def toReport (o : DriftOutcome) : Document :=
  .ofPairs (o.summary.reportMembers
    ++ [("state_diffs", .list (o.state.map Difference.toDocument)),
      ("config_drift", .list (o.config.map ConfigFinding.toDocument))])

end DriftOutcome

namespace Drift

variable {σ : Type}

/-- What the fingerprint of a node is taken of. -/
def bundle (interfaces sessions : Document) : Document :=
  .ofPairs [("interfaces", interfaces), ("bgp", sessions)]

def fingerprintOf (interfaces sessions : Document) : Fingerprint :=
  let d := bundle interfaces sessions
  ⟨Sha256.digest d.compact, ((d.members?).getD []).length⟩

def fingerprint (s : Subject σ) (node : String) : Audit σ (String × Fingerprint) := do
  let interfaces ← Evidence.interfaces s.lab s.transport node
  let sessions ← Evidence.sessions s.lab s.transport node
  pure (node, fingerprintOf interfaces.data sessions.data)

/-- The state of the fabric at a moment. -/
def snapshot (s : Subject σ) (now : Timestamp) : Audit σ Snapshot := do
  let fingerprints ← s.lab.fabricNodes.mapM (fingerprint s)
  pure ⟨s.intent.lab, now, s.intent.fingerprint, Keyed.ofList fingerprints⟩

def configFinding? (s : Subject σ) (node : String) : Audit σ (Option ConfigFinding) := do
  let desired ← Audit.ofExcept (s.lab.desiredText node)
  let running ← Evidence.runningConfig s.lab node
  pure (ConfigFinding.between? node desired (running.textAt "raw") (running.rc?.getD 1)
    (running.textAt "err"))

def configFindings (s : Subject σ) : Audit σ (List ConfigFinding) := do
  let findings ← s.lab.fabricNodes.mapM (configFinding? s)
  pure (findings.filterMap id)

/-- Holds the fabric against a baseline. -/
def detect (s : Subject σ) (baseline : Snapshot) (now : Timestamp) : Audit σ DriftOutcome := do
  let current ← snapshot s now
  let config ← configFindings s
  pure ⟨current, baseline.differences current, config⟩

def renderConfig (s : Subject σ) (color : Bool) (node : String) : Audit σ String := do
  let desired ← Audit.ofExcept (s.lab.desiredText node)
  let running ← Evidence.runningConfig s.lab node
  pure (Hunk.render color node desired (running.textAt "raw"))

end Drift

end FabricAudit
