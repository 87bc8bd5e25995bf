import FabricAudit.Evidence.Host
import FabricAudit.Proofs.Drift.Snapshot
import FabricAudit.Proofs.Evidence.Kind
import FabricAudit.Verdict.Run

set_option autoImplicit false

/-! # Sessions

A session is a sequence of steps on one store of evidence: runs of checks and single checks,
collectors of all kinds, snapshots, and drift detection. `Step.perform` carries a step out with the
operations that it stands for, and `Session.perform` one step after the other.
-/

namespace FabricAudit.Session

/-- What can be done with a subject and the evidence on it. -/
inductive Step where
  | run (mode : RunMode)
  | check (c : Check)
  | collect (kind : EvidenceKind) (node : String)
  | ping (host target : String) (interface : Option String)
  | neighbors (host interface : String)
  | hostInterfaces (host : String)
  | snapshot
  /-- Compares the running configurations with the desired ones. -/
  | configFindings
  | detect (baseline : Snapshot)
  | renderConfig (color : Bool) (node : String)

inductive Answer where
  | summary (s : Summary)
  | results (rs : List Result)
  | record (r : Except Fault Record)
  | reply (r : Except Fault Reply)
  | hostInterfaces (i : Except Fault Host.Interfaces)
  | snapshot (s : Except Fault Snapshot)
  | findings (fs : Except Fault (List ConfigFinding))
  | outcome (o : Except Fault DriftOutcome)
  | text (t : Except Fault String)

/-- The answer, as if it had been given at another moment. -/
def Answer.stamped (now : Timestamp) : Answer → Answer
  | .snapshot s => .snapshot (s.map (Snapshot.stamped now))
  | .outcome o => .outcome (o.map (DriftOutcome.stamped now))
  | a => a

variable {σ : Type}

def Step.perform (s : Subject σ) (now : Timestamp) : Step → StateM (Audit.State σ) Answer
  | .run mode => .summary <$> Verdict.run s mode
  | .check c => .results <$> Verdict.runCheck s c
  | .collect kind node => .record <$> (kind.collect s.lab s.transport node).run
  | .ping host target interface =>
    .reply <$> (Audit.ofWork (Host.ping s.lab host target interface)).run
  | .neighbors host interface => .reply <$> (Audit.ofWork (Host.neighbors s.lab host interface)).run
  | .hostInterfaces host => .hostInterfaces <$> (Audit.ofWork (Host.interfaces s.lab host)).run
  | .snapshot => .snapshot <$> (Drift.snapshot s now).run
  | .configFindings => .findings <$> (Drift.configFindings s).run
  | .detect baseline => .outcome <$> (Drift.detect s baseline now).run
  | .renderConfig color node => .text <$> (Drift.renderConfig s color node).run

/-- Carries out steps one after the other, each at its moment. -/
def perform (s : Subject σ) (steps : List (Timestamp × Step)) :
    StateM (Audit.State σ) (List Answer) :=
  steps.mapM fun step => step.2.perform s step.1

/-- The moment of a step shows in timestamps only. -/
theorem perform_stamped (s : Subject σ) (now now' : Timestamp) (step : Step)
    (st : Audit.State σ) :
    (step.perform s now st).1.stamped now' = (step.perform s now' st).1 := by
  cases step with
  | snapshot =>
      show Answer.snapshot ((Drift.snapshot s now st).1.map (Snapshot.stamped now'))
        = .snapshot (Drift.snapshot s now' st).1
      rw [← Drift.snapshot_stamped s now now', Audit.map_apply]
  | detect baseline =>
      show Answer.outcome ((Drift.detect s baseline now st).1.map (DriftOutcome.stamped now'))
        = .outcome (Drift.detect s baseline now' st).1
      rw [← Drift.detect_stamped s baseline now now', Audit.map_apply]
  | _ => rfl

end FabricAudit.Session
