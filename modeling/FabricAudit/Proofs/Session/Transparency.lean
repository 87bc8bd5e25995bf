import FabricAudit.Proofs.Evidence.Faithful
import FabricAudit.Proofs.Session.Basic
import FabricAudit.Proofs.Verdict.Determined

set_option autoImplicit false

/-! # The store of evidence is transparent

In a steady lab, with a transport that answers by path, no step of a session can tell whether other
steps came before it on the same store: it answers what it answers on a store without any evidence.
The invariant is that the store is faithful (`Store.Faithful`); the steps are determined under it.
-/

namespace FabricAudit

variable {σ : Type} {s : Subject σ}

/-- The true records of a steady lab, and what the transport has for each path: with them, the
collectors are determined as long as the store is faithful. -/
theorem Subject.exists_collectsSteadily (hlab : s.lab.IsSteady) (ht : s.transport.IsByPath) :
    ∃ (payload : String → Option Document) (found : EvidenceKind → String → Except Fault Document),
      s.CollectsSteadily (Store.Faithful payload found) := by
  obtain ⟨payload, hpayload⟩ := ht
  choose found hfound using EvidenceKind.fallback_determined hlab
  refine ⟨payload, found, fun kind node => ⟨kind.truth payload found node, fun st hst => ?_⟩⟩
  exact kind.collect_faithful hpayload (fun kind node w => (hfound kind node w trivial).1) node hst

namespace Session

variable {Q : Store → Prop}

/-- **Every step is determined**, if the collectors are. -/
theorem Step.perform_determined (hlab : s.lab.IsSteady) (h : s.CollectsSteadily Q)
    (now : Timestamp) (step : Step) :
    Determined (fun st => Q st.store) (step.perform s now) := by
  cases step with
  | run mode => exact (Verdict.run_determined hlab h mode).map _
  | check c => exact (Verdict.runCheck_determined hlab h c).map _
  | collect kind node => exact (h kind node).map _
  | ping host target interface => exact (Verdict.shell_determined hlab _ _).map _
  | neighbors host interface => exact (Verdict.shell_determined hlab _ _).map _
  | hostInterfaces host =>
      refine Determined.map _ (.run_ofWork ?_)
      exact .run_bind (hlab.perform _) fun _ => .run_pure _
  | snapshot => exact (Drift.snapshot_determined h now).map _
  | configFindings => exact (Drift.configFindings_determined h).map _
  | detect baseline => exact (Drift.detect_determined h baseline now).map _
  | renderConfig color node => exact (Drift.renderConfig_determined h color node).map _

theorem perform_determined (hlab : s.lab.IsSteady) (h : s.CollectsSteadily Q)
    (steps : List (Timestamp × Step)) : Determined (fun st => Q st.store) (perform s steps) :=
  Determined.mapM (f := fun step => step.2.perform s step.1)
    (fun step => step.2.perform_determined hlab h step.1) steps

/-- The steps of a session answer as each of them does in any other state. -/
theorem perform_answers (hlab : s.lab.IsSteady) (h : s.CollectsSteadily Q)
    (steps : List (Timestamp × Step)) {st st' : Audit.State σ} (hst : Q st.store)
    (hst' : Q st'.store) :
    (perform s steps st).1 = steps.map fun step => (step.2.perform s step.1 st').1 := by
  have hstep : ∀ step : Timestamp × Step,
      Determined (fun st : Audit.State σ => Q st.store) (step.2.perform s step.1) :=
    fun step => step.2.perform_determined hlab h step.1
  exact Determined.mapM_answers hstep steps hst hst'

/-- **Cache transparency.** Take a steady lab and a transport that answers by path, and carry out
any steps one after the other on one store. Every step answers what it answers alone on a fresh
store, at whatever moment: the moment shows in timestamps only. And wherever a run of checks stands
in a session, its results are those that each of its checks has alone, in the order in which they
are declared. -/
theorem answers_transparent (s : Subject σ) (hlab : s.lab.IsSteady) (ht : s.transport.IsByPath)
    (w w' : World σ) (now : Timestamp) (steps : List (Timestamp × Step)) :
    (perform s steps (Audit.fresh w)).1.map (Answer.stamped now)
      = steps.map (fun step => (step.2.perform s now (Audit.fresh w')).1) ∧
    ∀ mode, (Verdict.run s mode (perform s steps (Audit.fresh w)).2).1.results
      = ((s.intent.checks.filter fun c => mode.includes c.phase).map
          fun c => (Verdict.runCheck s c (Audit.fresh w')).1).flatten := by
  obtain ⟨payload, found, hcollect⟩ := s.exists_collectsSteadily hlab ht
  have hfresh : ∀ w : World σ, (Audit.fresh w).store.Faithful payload found :=
    fun _ => .empty payload found
  refine ⟨?_, fun mode => ?_⟩
  · -- both sides are answers in faithful states, and differ in the moments only
    rw [perform_answers hlab hcollect steps (hfresh w) (hfresh w'), List.map_map]
    refine List.map_congr_left fun step _ => ?_
    exact perform_stamped s step.1 now step.2 (Audit.fresh w')
  · -- a session leaves the store faithful, so the run that follows it is determined too
    have hafter : (perform s steps (Audit.fresh w)).2.store.Faithful payload found :=
      (perform_determined hlab hcollect steps).preserves (hfresh w)
    exact Verdict.run_results hlab hcollect mode hafter (hfresh w')

/-- A fabric of two switches with telemetry for interfaces, of which the second executes nothing. -/
def brokenFabric : Subject Unit :=
  ⟨⟨"lab", .standard, .empty, [], [⟨"bgp", .controlPlane, .bgpEstablished, .error, []⟩],
      .object []⟩,
    (((Script.empty.addNode "leaf1" "ceos").addNode "leaf2" "ceos").breakNode "leaf2"
      "no such container").lab (FileTree.empty []) "/lab",
    .static [(interfacesPath, .object [])]⟩

/-- A session on this fabric in which the detection fails at the second switch, with the first one
and a downgraded path already in the store. -/
def brokenSession : List (Timestamp × Step) :=
  [(.epoch, .detect ⟨"lab", .epoch, "", []⟩), (.epoch, .collect .sessions "leaf1"),
    (.epoch, .run .all), (.epoch, .collect .interfaces "leaf2")]

theorem answers_transparent_brokenFabric :
    brokenFabric.lab.IsSteady ∧ brokenFabric.transport.IsByPath ∧
    (perform brokenFabric brokenSession (Audit.fresh ⟨(), []⟩)).1.map (Answer.stamped .epoch)
      = brokenSession.map (fun step =>
          (step.2.perform brokenFabric .epoch (Audit.fresh ⟨(), []⟩)).1) ∧
    ∀ mode, (Verdict.run brokenFabric mode
        (perform brokenFabric brokenSession (Audit.fresh ⟨(), []⟩)).2).1.results
      = ((brokenFabric.intent.checks.filter fun c => mode.includes c.phase).map
          fun c => (Verdict.runCheck brokenFabric c (Audit.fresh ⟨(), []⟩)).1).flatten := by
  have hlab : brokenFabric.lab.IsSteady := Script.lab_isSteady _ _ _
  have ht : brokenFabric.transport.IsByPath := Transport.static_isByPath _
  exact ⟨hlab, ht, answers_transparent brokenFabric hlab ht _ _ _ _⟩

end Session

end FabricAudit
