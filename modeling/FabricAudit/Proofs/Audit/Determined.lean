import FabricAudit.Proofs.Audit.Basic

set_option autoImplicit false

/-! # Determined computations

A computation with a state is determined, as long as the state has a property `P`, if every such
state gets the same answer and leaves a state with `P`. Whatever is made of determined computations
is determined again, so this is shown of the single steps only; and the answers of a determined
computation in two states with `P` can be exchanged for one another (`Determined.answer_eq`).

Audits end in faults, so there are two sets of rules: those for the state alone, and those for
audits, which are stated about `m.run`.
-/

namespace FabricAudit

variable {S α β : Type} {P : S → Prop}

/-- In every state with `P` the answer is the same, and the state after it has `P` again. -/
def Determined (P : S → Prop) (m : StateM S α) : Prop :=
  ∃ a, ∀ st, P st → (m st).1 = a ∧ P (m st).2

namespace Determined

/-- Two states with `P` get the same answer. -/
theorem answer_eq {m : StateM S α} (h : Determined P m) {st st' : S} (hst : P st) (hst' : P st') :
    (m st).1 = (m st').1 := by
  obtain ⟨a, ha⟩ := h
  rw [(ha st hst).1, (ha st' hst').1]

theorem preserves {m : StateM S α} (h : Determined P m) {st : S} (hst : P st) : P (m st).2 := by
  obtain ⟨a, ha⟩ := h
  exact (ha st hst).2

/-! ## States alone -/

protected theorem pure (a : α) : Determined P (pure a : StateM S α) := ⟨a, fun _ h => ⟨rfl, h⟩⟩

protected theorem bind {m : StateM S α} {f : α → StateM S β} (hm : Determined P m)
    (hf : ∀ a, Determined P (f a)) : Determined P (m >>= f) := by
  obtain ⟨a, ha⟩ := hm
  obtain ⟨b, hb⟩ := hf a
  refine ⟨b, fun st hst => ?_⟩
  obtain ⟨hans, hP⟩ := ha st hst
  show (f (m st).1 (m st).2).1 = b ∧ P (f (m st).1 (m st).2).2
  rw [hans]
  exact hb _ hP

protected theorem map {m : StateM S α} (f : α → β) (hm : Determined P m) :
    Determined P (f <$> m) := by
  obtain ⟨a, ha⟩ := hm
  refine ⟨f a, fun st hst => ?_⟩
  obtain ⟨hans, hP⟩ := ha st hst
  exact ⟨congrArg f hans, hP⟩

protected theorem mapM {f : α → StateM S β} (hf : ∀ x, Determined P (f x)) (xs : List α) :
    Determined P (xs.mapM f) := by
  induction xs with
  | nil =>
      rw [List.mapM_nil]
      exact Determined.pure _
  | cons x xs ih =>
      rw [List.mapM_cons]
      exact (hf x).bind fun _ => ih.bind fun _ => Determined.pure _

/-- One after the other, determined computations answer as each of them does in any state. -/
theorem mapM_answers {f : α → StateM S β} (hf : ∀ x, Determined P (f x)) (xs : List α) {st st' : S}
    (hst : P st) (hst' : P st') : (xs.mapM f st).1 = xs.map fun x => (f x st').1 := by
  induction xs generalizing st with
  | nil => rw [List.mapM_nil]; rfl
  | cons x xs ih =>
      have hcons : ((x :: xs).mapM f st).1 = (f x st).1 :: (xs.mapM f (f x st).2).1 := by
        rw [List.mapM_cons]; rfl
      rw [hcons, ih ((hf x).preserves hst), (hf x).answer_eq hst hst', List.map_cons]

/-! ## Audits -/

theorem run_pure (a : α) : Determined P (pure a : ExceptT Fault (StateM S) α).run :=
  ⟨.ok a, fun _ h => ⟨rfl, h⟩⟩

theorem run_bind {m : ExceptT Fault (StateM S) α} {f : α → ExceptT Fault (StateM S) β}
    (hm : Determined P m.run) (hf : ∀ a, Determined P (f a).run) : Determined P (m >>= f).run := by
  obtain ⟨answer, ha⟩ := hm
  -- a fault of `m` is the answer of the whole, and what follows is not reached
  rcases answer with e | a
  · refine ⟨.error e, fun st hst => ?_⟩
    obtain ⟨hans, hP⟩ := ha st hst
    have hm : m st = (.error e, (m st).2) := Prod.ext hans rfl
    show ((m >>= f) st).1 = _ ∧ P ((m >>= f) st).2
    rw [Audit.bind_error hm]
    exact ⟨rfl, hP⟩
  · obtain ⟨b, hb⟩ := hf a
    refine ⟨b, fun st hst => ?_⟩
    obtain ⟨hans, hP⟩ := ha st hst
    have hm : m st = (.ok a, (m st).2) := Prod.ext hans rfl
    show ((m >>= f) st).1 = _ ∧ P ((m >>= f) st).2
    rw [Audit.bind_ok hm]
    exact hb _ hP

theorem run_mapM {f : α → ExceptT Fault (StateM S) β} (hf : ∀ x, Determined P (f x).run)
    (xs : List α) : Determined P (xs.mapM f).run := by
  induction xs with
  | nil =>
      rw [List.mapM_nil]
      exact run_pure _
  | cons x xs ih =>
      rw [List.mapM_cons]
      exact run_bind (hf x) fun _ => run_bind ih fun _ => run_pure _

variable {σ : Type} {Q : Store → Prop}

/-- What does not look at the state is determined. -/
theorem run_ofExcept {P : Audit.State σ → Prop} (e : Except Fault α) :
    Determined P (Audit.ofExcept e : Audit σ α).run :=
  ⟨e, fun _ h => ⟨rfl, h⟩⟩

theorem run_ofReading {P : Audit.State σ → Prop} (e : Except ReadFault α) :
    Determined P (Audit.ofReading e : Audit σ α).run :=
  run_ofExcept _

/-- Work on the lab leaves the store alone, so what the lab determines is determined. -/
theorem run_ofWork {w : Work σ α} (hw : Determined (fun _ => True) w.run) :
    Determined (fun st => Q st.store) (Audit.ofWork w).run := by
  obtain ⟨a, ha⟩ := hw
  exact ⟨a, fun st hst => ⟨(ha st.world trivial).1, hst⟩⟩

end Determined

/-! ## Steady labs -/

/-- The lab gives every command one reply, whatever happened before. -/
def Lab.IsSteady {σ : Type} (lab : Lab σ) : Prop :=
  ∃ reply : Call → Except Fault Reply, ∀ c s, (lab.answer c s).1 = reply c

/-- A command for a steady lab is determined. -/
theorem Lab.IsSteady.perform {σ : Type} {lab : Lab σ} (h : lab.IsSteady) (c : Call) :
    Determined (fun _ => True) (lab.perform c).run := by
  obtain ⟨reply, hreply⟩ := h
  exact ⟨reply c, fun w _ => ⟨hreply c w.state, trivial⟩⟩

end FabricAudit
