import FabricAudit.Drift.Detection
import FabricAudit.Proofs.Evidence.Kind
import FabricAudit.Verdict.Run

set_option autoImplicit false

/-! # Checks and drift detection are determined

In a steady lab, checks and drift detection learn of the fabric through the collectors and through
commands only. So if the collectors are determined, as long as the store has a property `Q`, then so
is every check, every run of checks and every part of drift detection.
-/

namespace FabricAudit

variable {σ : Type} {s : Subject σ} {Q : Store → Prop}

/-- The collectors of a subject are determined, as long as the store has the property `Q`. -/
def Subject.CollectsSteadily (s : Subject σ) (Q : Store → Prop) : Prop :=
  ∀ (kind : EvidenceKind) (node : String),
    Determined (fun st : Audit.State σ => Q st.store) (kind.collect s.lab s.transport node).run

namespace Verdict

/-! ## Checks -/

theorem configContains_determined (c : Check) :
    Determined (fun st => Q st.store) (configContains s c).run := by
  refine .run_bind (.run_ofReading _) fun p => .run_mapM (fun node => ?_) _
  refine .run_bind (.run_ofExcept _) fun text => ?_
  exact .run_pure _

theorem intentDistinct_determined (c : Check) :
    Determined (fun st => Q st.store) (intentDistinct s c).run := by
  refine .run_bind (.run_ofReading _) fun p => ?_
  exact .run_pure _

theorem interfacesUp_determined (h : s.CollectsSteadily Q) (c : Check) :
    Determined (fun st => Q st.store) (interfacesUp s c).run := by
  refine .run_bind (.run_ofReading _) fun p => .run_bind (.run_ofExcept _) fun rules => ?_
  refine .run_mapM (fun node => ?_) _
  refine .run_bind (h .interfaces node) fun record => ?_
  refine .run_bind (.run_ofReading _) fun entries => ?_
  exact .run_pure _

theorem bgpEstablished_determined (h : s.CollectsSteadily Q) (c : Check) :
    Determined (fun st => Q st.store) (bgpEstablished s c).run := by
  refine .run_bind (.run_ofReading _) fun p => .run_mapM (fun node => ?_) _
  refine .run_bind (h .sessions node) fun record => ?_
  refine .run_bind (.run_ofReading _) fun found => ?_
  exact .run_pure _

theorem evpnRoutesPresent_determined (h : s.CollectsSteadily Q) (c : Check) :
    Determined (fun st => Q st.store) (evpnRoutesPresent s c).run := by
  refine .run_bind (.run_ofReading _) fun p => .run_mapM (fun node => ?_) _
  refine .run_bind (h .evpnRoutes node) fun record => ?_
  exact .run_pure _

theorem evpnSessionsUp_determined (h : s.CollectsSteadily Q) (c : Check) :
    Determined (fun st => Q st.store) (evpnSessionsUp s c).run := by
  refine .run_bind (.run_ofReading _) fun p => .run_mapM (fun node => ?_) _
  refine .run_bind (h .evpnSummary node) fun record => ?_
  refine .run_bind (.run_ofReading _) fun found => ?_
  exact .run_pure _

/-- A command for the shell of a host of a steady lab is determined. -/
theorem shell_determined (hlab : s.lab.IsSteady) (node command : String) :
    Determined (fun st => Q st.store) (Audit.ofWork (s.lab.shell node command)).run :=
  .run_ofWork (hlab.perform _)

theorem pingProbe_determined (hlab : s.lab.IsSteady) (c : Check) (interface : Option String)
    (probe : PingProbe) :
    Determined (fun st => Q st.store) (pingProbe s c interface probe).run := by
  have hping : Determined (fun st : Audit.State σ => Q st.store)
      (probe.targets.mapM fun target => do
        let reply ← Audit.ofWork (Host.ping s.lab probe.source target interface)
        pure (pingResult c probe.source target reply) : Audit σ (List Result)).run :=
    .run_mapM (fun target => .run_bind (shell_determined hlab _ _) fun _ => .run_pure _) _
  -- with an interface, the host is asked first whether it has it
  cases interface with
  | none => exact hping
  | some i =>
      have hlist : Determined (fun st : Audit.State σ => Q st.store)
          (Audit.ofWork (Host.interfaces s.lab probe.source)).run :=
        .run_ofWork (.run_bind (hlab.perform _) fun _ => .run_pure _)
      refine .run_bind hlist fun found => ?_
      by_cases hlacks : lacks found i = true
      · rw [if_pos hlacks]
        exact .run_pure _
      · rw [if_neg hlacks]
        exact hping

theorem pingTargets_determined (hlab : s.lab.IsSteady) (c : Check) :
    Determined (fun st => Q st.store) (pingTargets s c).run := by
  refine .run_bind (.run_ofReading _) fun p => ?_
  refine .run_bind (.run_mapM (fun probe => ?_) _) fun results => ?_
  · exact pingProbe_determined hlab c _ probe
  exact .run_pure _

theorem neighborAbsent_determined (hlab : s.lab.IsSteady) (c : Check) :
    Determined (fun st => Q st.store) (neighborAbsent s c).run := by
  refine .run_bind (.run_ofReading _) fun p => .run_mapM (fun probe => ?_) _
  refine .run_bind (shell_determined hlab _ _) fun ping => ?_
  refine .run_bind (shell_determined hlab _ _) fun reply => ?_
  exact .run_pure _

theorem ofCheck_determined (hlab : s.lab.IsSteady) (h : s.CollectsSteadily Q) (c : Check) :
    Determined (fun st => Q st.store) (ofCheck s c).run := by
  unfold ofCheck
  cases c.kind with
  | configContains => exact configContains_determined c
  | interfacesUp => exact interfacesUp_determined h c
  | bgpEstablished => exact bgpEstablished_determined h c
  | evpnRoutesPresent => exact evpnRoutesPresent_determined h c
  | evpnSessionsUp => exact evpnSessionsUp_determined h c
  | pingTargets => exact pingTargets_determined hlab c
  | neighborAbsent => exact neighborAbsent_determined hlab c
  | intentDistinct => exact intentDistinct_determined c
  | unsupported => exact .run_pure _

/-- **A check is determined**, also when it crashes. -/
theorem runCheck_determined (hlab : s.lab.IsSteady) (h : s.CollectsSteadily Q) (c : Check) :
    Determined (fun st => Q st.store) (runCheck s c) := by
  refine (ofCheck_determined hlab h c).bind fun answer => ?_
  cases answer with
  | ok results => exact .pure _
  | error f => exact .pure _

/-- **So is a run of checks.** -/
theorem run_determined (hlab : s.lab.IsSteady) (h : s.CollectsSteadily Q) (mode : RunMode) :
    Determined (fun st => Q st.store) (run s mode) :=
  (Determined.mapM (runCheck_determined hlab h) _).bind fun _ => .pure _

/-- The results of a run are those that its checks have in any other state, in their order. -/
theorem run_results (hlab : s.lab.IsSteady) (h : s.CollectsSteadily Q) (mode : RunMode)
    {st st' : Audit.State σ} (hst : Q st.store) (hst' : Q st'.store) :
    (run s mode st).1.results
      = ((s.intent.checks.filter fun c => mode.includes c.phase).map
          fun c => (runCheck s c st').1).flatten := by
  have hrun : (run s mode st).1.results
      = ((s.intent.checks.filter fun c => mode.includes c.phase).mapM (runCheck s) st).1.flatten :=
    rfl
  rw [hrun, Determined.mapM_answers (P := fun st : Audit.State σ => Q st.store)
    (runCheck_determined hlab h) _ hst hst']

end Verdict

namespace Drift

/-! ## Drift detection -/

theorem snapshot_determined (h : s.CollectsSteadily Q) (now : Timestamp) :
    Determined (fun st => Q st.store) (snapshot s now).run := by
  refine .run_bind (.run_mapM (fun node => ?_) _) fun fingerprints => .run_pure _
  refine .run_bind (h .interfaces node) fun interfaces => ?_
  refine .run_bind (h .sessions node) fun sessions => ?_
  exact .run_pure _

theorem configFindings_determined (h : s.CollectsSteadily Q) :
    Determined (fun st => Q st.store) (configFindings s).run := by
  refine .run_bind (.run_mapM (fun node => ?_) _) fun findings => .run_pure _
  refine .run_bind (.run_ofExcept _) fun desired => ?_
  refine .run_bind (h .runningConfig node) fun running => ?_
  exact .run_pure _

theorem detect_determined (h : s.CollectsSteadily Q) (baseline : Snapshot) (now : Timestamp) :
    Determined (fun st => Q st.store) (detect s baseline now).run := by
  refine .run_bind (snapshot_determined h now) fun current => ?_
  refine .run_bind (configFindings_determined h) fun config => ?_
  exact .run_pure _

theorem renderConfig_determined (h : s.CollectsSteadily Q) (color : Bool) (node : String) :
    Determined (fun st => Q st.store) (renderConfig s color node).run := by
  refine .run_bind (.run_ofExcept _) fun desired => ?_
  refine .run_bind (h .runningConfig node) fun running => ?_
  exact .run_pure _

end Drift

end FabricAudit
