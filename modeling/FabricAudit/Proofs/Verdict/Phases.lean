import FabricAudit.Proofs.Intent.Accepted
import FabricAudit.Proofs.Session.Transparency
import FabricAudit.Proofs.Verdict.Complete

set_option autoImplicit false

/-! # Runs of single phases

Every result counts for the phase of its check, and every check that an intent declares belongs to
one of the four validation phases. So a run of all phases leaves no check out, and its results fall
apart into those of the four runs of single phases. In a steady lab these agree result by result,
because no check is influenced by what the others left in the store of evidence.
-/

namespace FabricAudit

/-! ## Phases of a run mode -/

theorem Phase.mem_validation_iff {phase : Phase} : phase ∈ validation ↔ phase ≠ .drift := by
  cases phase <;> decide

/-- A run mode that has a name does not cover the drift phase. -/
theorem RunMode.includes_drift_of_ofName? {word : String} {mode : RunMode}
    (h : ofName? word = some mode) : mode.includes .drift = false := by
  unfold ofName? at h
  split at h
  · cases h
    rfl
  · split at h
    · cases h
    · cases h
    · rename_i phase hdrift _
      cases h
      show (phase == Phase.drift) = false
      rw [beq_eq_false_iff_ne]
      exact hdrift

/-- The phase of every check of an intent that was loaded is a validation phase. -/
theorem Intent.phase_mem_validation {lab text : String} {i : Intent}
    (h : Intent.ofYaml lab text = .ok i) {c : Check} (hc : c ∈ i.checks) :
    c.phase ∈ Phase.validation := by
  obtain ⟨d, hd, -⟩ := Except.bind_eq_ok_iff.mp h
  rw [ofYaml_eq lab (Except.mapError_eq_ok_iff.mp hd), Except.mapError_eq_ok_iff] at h
  obtain ⟨ms, -, hholds⟩ := ofDocument_eq_ok_iff.mp h
  exact Phase.mem_validation_iff.mpr (hholds.phase_ne_drift hc)

namespace Verdict

variable {σ : Type}

/-! ## Phases of results -/

/-- **A single result of a check** says that the check crashed, or it is given under one of the
names that the check owes. -/
theorem crashed_or_answers_of_mem (s : Subject σ) (c : Check) (st : Audit.State σ) {r : Result}
    (hr : r ∈ (runCheck s c st).1) :
    (∃ f : Fault, r = Result.crashed c f.message) ∨
      ∃ scope, c.scope = .ok scope ∧
        ∃ name ∈ scope.names c s.intent.inventory, c.Answers name r := by
  have hend := ofCheck_ends s c st
  rw [runCheck_eq] at hr
  rcases hrun : ofCheck s c st with ⟨f | rs, st'⟩ <;> rw [hrun] at hend hr
  · exact .inl ⟨f, List.mem_singleton.mp hr⟩
  · cases hend with
    | answered _ _ hcomplete =>
        obtain ⟨scope, hscope, hanswers⟩ := hcomplete.results
        exact .inr ⟨scope, hscope, hanswers.exists_of_mem_right hr⟩

/-- Every result of a check counts for its phase, also when the check crashes. -/
theorem phase_of_mem_runCheck (s : Subject σ) (c : Check) (st : Audit.State σ) {r : Result}
    (hr : r ∈ (runCheck s c st).1) : r.phase = c.phase := by
  rcases crashed_or_answers_of_mem s c st hr with ⟨f, rfl⟩ | ⟨_, -, _, -, hanswer⟩
  · rfl
  · exact hanswer.phase_eq

/-- If the results of every check count for its phase, those of the checks of one phase are the
results for that phase among those of all checks. -/
theorem flatten_filter_phase {results : Check → List Result}
    (hphase : ∀ c, ∀ r ∈ results c, r.phase = c.phase) (phase : Phase) (checks : List Check) :
    ((checks.filter fun c => c.phase = phase).map results).flatten
      = ((checks.map results).flatten).filter fun r => r.phase = phase := by
  induction checks with
  | nil => rfl
  | cons c checks ih =>
      rw [List.map_cons, List.flatten_cons, List.filter_append, ← ih]
      by_cases hc : c.phase = phase
      · have hall : (results c).filter (fun r => r.phase = phase) = results c := by
          rw [List.filter_eq_self]
          intro r hr
          simp [hphase c r hr, hc]
        rw [List.filter_cons_of_pos (by simpa using hc), List.map_cons, List.flatten_cons, hall]
      · have hnone : (results c).filter (fun r => r.phase = phase) = [] := by
          rw [List.filter_eq_nil_iff]
          intro r hr
          simp [hphase c r hr, hc]
        rw [List.filter_cons_of_neg (by simpa using hc), hnone, List.nil_append]

/-- What a traversal of the items of a list answers, it answers for one of them, in some state. -/
theorem exists_of_mem_mapM {S α β : Type} {f : α → StateM S β} {xs : List α} {st : S} {y : β}
    (hy : y ∈ (xs.mapM f st).1) : ∃ x ∈ xs, ∃ st', y = (f x st').1 := by
  induction xs generalizing st with
  | nil =>
      rw [List.mapM_nil] at hy
      cases hy
  | cons x xs ih =>
      have hcons : (x :: xs).mapM f st =
          ((f x st).1 :: (xs.mapM f (f x st).2).1, (xs.mapM f (f x st).2).2) := by
        rw [List.mapM_cons]; rfl
      rw [hcons] at hy
      rcases List.mem_cons.mp hy with rfl | hy
      · exact ⟨x, List.mem_cons_self, st, rfl⟩
      · obtain ⟨x', hx', st', hst'⟩ := ih hy
        exact ⟨x', List.mem_cons_of_mem _ hx', st', hst'⟩

/-! ## The full run -/

/-- The checks of a run of all phases are all of them, if each belongs to a validation phase. -/
theorem filter_all {checks : List Check} (h : ∀ c ∈ checks, c.phase ∈ Phase.validation) :
    (checks.filter fun c => RunMode.all.includes c.phase) = checks := by
  rw [List.filter_eq_self]
  intro c hc
  exact List.contains_iff_mem.mpr (h c hc)

/-- The checks of a run of one phase are those that belong to it. -/
theorem filter_only (phase : Phase) (checks : List Check) :
    (checks.filter fun c => (RunMode.only phase).includes c.phase)
      = checks.filter fun c => c.phase = phase := by
  refine List.filter_congr fun c _ => ?_
  show (phase == c.phase) = decide (c.phase = phase)
  rw [beq_eq_decide, decide_eq_decide]
  exact eq_comm

/-- A run of all phases gives the results of every check, one check after the other. -/
theorem run_all_eq (s : Subject σ) (h : ∀ c ∈ s.intent.checks, c.phase ∈ Phase.validation) :
    run s .all
      = (fun results => ⟨results.flatten⟩) <$> s.intent.checks.mapM (runCheck s) := by
  rw [run, filter_all h]
  rfl

/-- In a steady lab, the results for one phase are the same in a run of this phase and in a run of
all phases, wherever the store of either is faithful. -/
theorem run_only_results {s : Subject σ} {Q : Store → Prop} (hlab : s.lab.IsSteady)
    (hcollect : s.CollectsSteadily Q) (hvalid : ∀ c ∈ s.intent.checks, c.phase ∈ Phase.validation)
    (phase : Phase) {st st' : Audit.State σ} (hst : Q st.store) (hst' : Q st'.store) :
    (run s (.only phase) st).1.results
      = (run s .all st').1.results.filter fun r => r.phase = phase := by
  rw [run_results hlab hcollect _ hst hst, run_results hlab hcollect _ hst' hst, filter_all hvalid,
    filter_only]
  exact flatten_filter_phase (fun c _ hr => phase_of_mem_runCheck s c st hr) phase _

/-- **Runs of single phases partition the full run.** Take an intent that was loaded, a steady lab
and a transport that answers by path. A run of all phases carries every declared check out once, in
order. The results of a run of one validation phase are those for that phase among the results of the
full run, in the same order, whatever was done before on the store of either; and every result of
the full run counts for one of these phases. No run mode that has a name covers the drift phase. -/
theorem run_partition (s : Subject σ) (hlab : s.lab.IsSteady) (ht : s.transport.IsByPath)
    {lab text : String} (hintent : Intent.ofYaml lab text = .ok s.intent) :
    run s .all = (fun results => ⟨results.flatten⟩) <$> s.intent.checks.mapM (runCheck s) ∧
      (∀ phase ∈ Phase.validation, ∀ (w w' : World σ)
        (before before' : List (Timestamp × Session.Step)),
        (run s (.only phase) (Session.perform s before (Audit.fresh w)).2).1.results
          = (run s .all (Session.perform s before' (Audit.fresh w')).2).1.results.filter
              fun r => r.phase = phase) ∧
      (∀ st, ∀ r ∈ (run s .all st).1.results, r.phase ∈ Phase.validation) ∧
      ∀ word mode, RunMode.ofName? word = some mode → mode.includes .drift = false := by
  have hvalid : ∀ c ∈ s.intent.checks, c.phase ∈ Phase.validation :=
    fun c hc => Intent.phase_mem_validation hintent hc
  refine ⟨run_all_eq s hvalid, ?_, ?_, fun word mode h => RunMode.includes_drift_of_ofName? h⟩
  · intro phase _ w w' before before'
    obtain ⟨payload, found, hcollect⟩ := s.exists_collectsSteadily hlab ht
    -- both stores are faithful, whatever was done on them before
    have hafter : ∀ (w : World σ) (before : List (Timestamp × Session.Step)),
        (Session.perform s before (Audit.fresh w)).2.store.Faithful payload found :=
      fun _ before => (Session.perform_determined hlab hcollect before).preserves
        (.empty payload found)
    exact run_only_results hlab hcollect hvalid phase (hafter w before) (hafter w' before')
  · intro st r hr
    rw [run_all_eq s hvalid] at hr
    obtain ⟨results, hresults, hr⟩ := List.mem_flatten.mp hr
    obtain ⟨c, hc, st', rfl⟩ := exists_of_mem_mapM hresults
    rw [phase_of_mem_runCheck s c st' hr]
    exact hvalid c hc

/-- On a fabric with a broken switch, whose intent has checks of two phases. The run of one phase
stands after a session, the full run on a fresh store. -/
theorem run_partition_brokenFabric :
    ∃ i, Intent.ofYaml "lab" Intent.smallText = .ok i ∧
      i.checks.map (fun c => (c.name, c.phase, c.severity)) =
        [("a", .controlPlane, .error), ("7", .intent, .error)] ∧
      let s := { Session.brokenFabric with intent := i }
      s.lab.IsSteady ∧ s.transport.IsByPath ∧
        run s .all = (fun results => ⟨results.flatten⟩) <$> i.checks.mapM (runCheck s) ∧
        (run s (.only .intent)
            (Session.perform s Session.brokenSession (Audit.fresh ⟨(), []⟩)).2).1.results
          = (run s .all (Session.perform s [] (Audit.fresh ⟨(), []⟩)).2).1.results.filter
              fun r => r.phase = .intent := by
  obtain ⟨i, hi, hchecks⟩ := Intent.exists_ofYaml_smallText
  have hlab : ({ Session.brokenFabric with intent := i } : Subject Unit).lab.IsSteady :=
    Script.lab_isSteady _ _ _
  have ht : ({ Session.brokenFabric with intent := i } : Subject Unit).transport.IsByPath :=
    Transport.static_isByPath _
  obtain ⟨hall, honly, -, -⟩ := run_partition _ hlab ht hi
  exact ⟨i, hi, hchecks, hlab, ht, hall, honly .intent (by decide) _ _ _ _⟩

end Verdict

end FabricAudit
