import FabricAudit.Proofs.Session.Basic
import FabricAudit.Proofs.Verdict.Frame

set_option autoImplicit false

/-! # What the steps of a session may touch

Detecting drift collects evidence and does nothing else, and so every step of a session is made of
collections, of commands for hosts, and of nothing else (`Step.perform_keeps`).
-/

namespace FabricAudit

open Audit (Keeps)

variable {σ : Type} {s : Subject σ} {asks : EvidenceKind → String → Prop} {probes : String → Prop}
  {R : Audit.State σ → Audit.State σ → Prop}

namespace Drift

theorem snapshot_keeps (h : s.Frame (fun _ _ => True) probes R) (now : Timestamp) :
    Keeps R (snapshot s now) := by
  refine h.bind (h.mapM fun node _ => ?_) fun fingerprints => h.pure _
  refine h.bind (h.collect .interfaces node trivial) fun interfaces => ?_
  exact h.bind (h.collect .sessions node trivial) fun sessions => h.pure _

theorem configFindings_keeps (h : s.Frame (fun _ _ => True) probes R) :
    Keeps R (configFindings s) := by
  refine h.bind (h.mapM fun node _ => ?_) fun findings => h.pure _
  refine h.ofExcept_bind fun desired _ => ?_
  exact h.bind (h.collect .runningConfig node trivial) fun running => h.pure _

theorem detect_keeps (h : s.Frame (fun _ _ => True) probes R) (baseline : Snapshot)
    (now : Timestamp) : Keeps R (detect s baseline now) :=
  h.bind (snapshot_keeps h now) fun _ => h.bind (configFindings_keeps h) fun _ => h.pure _

theorem renderConfig_keeps (h : s.Frame (fun _ _ => True) probes R) (color : Bool)
    (node : String) : Keeps R (renderConfig s color node) := by
  refine h.ofExcept_bind fun desired _ => ?_
  exact h.bind (h.collect .runningConfig node trivial) fun running => h.pure _

end Drift

namespace Session

/-- **A step does nothing but collect evidence and probe from hosts.** -/
theorem Step.perform_keeps (h : s.Frame (fun _ _ => True) (fun _ => True) R) (now : Timestamp)
    (step : Step) (st : Audit.State σ) : R st (step.perform s now st).2 := by
  cases step with
  | run mode => exact Verdict.run_keeps h mode st
  | check c =>
      have hcheck : R st (Verdict.ofCheck s c st).2 :=
        Verdict.ofCheck_keeps (h.mono (fun _ => trivial) fun _ => trivial) st
      rw [← Verdict.runCheck_state] at hcheck
      exact hcheck
  | collect kind node => exact h.collect kind node trivial st
  | ping host target interface => exact h.ping trivial target interface st
  | neighbors host interface => exact h.neighbors trivial interface st
  | hostInterfaces host => exact h.interfaces trivial st
  | snapshot => exact Drift.snapshot_keeps h now st
  | configFindings => exact Drift.configFindings_keeps h st
  | detect baseline => exact Drift.detect_keeps h baseline now st
  | renderConfig color node => exact Drift.renderConfig_keeps h color node st

end Session

end FabricAudit
