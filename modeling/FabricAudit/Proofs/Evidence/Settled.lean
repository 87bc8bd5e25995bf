import FabricAudit.Proofs.Drift.Evidence

set_option autoImplicit false

/-! # Settled answers

Evidence that was collected once answers for itself: whoever collects it again gets it from the
store, and neither the lab nor the transport is asked. So an audit that looks at a lab through its
evidence only is settled as soon as it has succeeded once. It gives the same answer from every later
store and does nothing else, even if the lab has changed in the meantime. `Settles m m'` says so of
an audit `m` and of `m'`, which does the same with another lab or another transport.
-/

namespace FabricAudit

open Audit (Keeps)

variable {σ α β : Type}

namespace Audit

/-- From every state that has at least the evidence of a store, the answer is `a` and nothing
happens. -/
def Repeats (store : Store) (m : Audit σ α) (a : α) : Prop :=
  ∀ st : State σ, store.Grows st.store → m st = (.ok a, st)

/-- Once `m` has succeeded, `m'` repeats its answer. -/
def Settles (m m' : Audit σ α) : Prop :=
  ∀ ⦃st st' : State σ⦄ ⦃a : α⦄, m st = (.ok a, st') →
    st.store.Grows st'.store ∧ Repeats st'.store m' a

namespace Settles

protected theorem pure (a : α) : Settles (pure a : Audit σ α) (pure a) := by
  intro st st' b h
  cases h
  exact ⟨.refl _, fun _ _ => rfl⟩

theorem ofExcept (e : Except Fault α) : Settles (Audit.ofExcept e : Audit σ α) (ofExcept e) := by
  intro st st' a h
  cases h
  exact ⟨.refl _, fun _ _ => rfl⟩

/-- What has settled stays settled while the rest settles. -/
protected theorem bind {m m' : Audit σ α} {f f' : α → Audit σ β} (hm : Settles m m')
    (hf : ∀ a, Settles (f a) (f' a)) : Settles (m >>= f) (m' >>= f') := by
  intro st st'' b h
  obtain ⟨a, st', hfirst, hrest⟩ := bind_eq_ok_iff.mp h
  obtain ⟨hgrows, hrepeats⟩ := hm hfirst
  obtain ⟨hgrows', hrepeats'⟩ := hf a hrest
  refine ⟨hgrows.trans hgrows', fun later hlater => ?_⟩
  rw [bind_ok (hrepeats later (hgrows'.trans hlater)), hrepeats' later hlater]

protected theorem mapM {f f' : α → Audit σ β} (hf : ∀ x, Settles (f x) (f' x)) (xs : List α) :
    Settles (xs.mapM f) (xs.mapM f') := by
  induction xs with
  | nil =>
      rw [List.mapM_nil, List.mapM_nil]
      exact .pure _
  | cons x xs ih =>
      rw [List.mapM_cons, List.mapM_cons]
      exact (hf x).bind fun _ => ih.bind fun _ => .pure _

end Settles

end Audit

open Audit (Settles)

/-- **Evidence settles**, whatever becomes of the lab. -/
theorem EvidenceKind.collect_settles (lab lab' : Lab σ) (t t' : Transport) (kind : EvidenceKind)
    (node : String) : Settles (kind.collect lab t node) (kind.collect lab' t' node) := by
  intro st st' r h
  have hgrows : Keeps Audit.State.Grows (kind.collect lab t node) := kind.collect_grows
  refine ⟨hgrows.of_eq h, fun later hlater => ?_⟩
  rw [kind.collect_eq_run]
  exact Collection.run_of_kept (hlater.records (kind.get?_of_collect h))

end FabricAudit
