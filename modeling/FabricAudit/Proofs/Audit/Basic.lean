import Mathlib.Data.List.Forall2
import FabricAudit.Evidence.Store
import FabricAudit.Proofs.Document.Refusal

set_option autoImplicit false

/-! # Running audits

An audit, and the work on a lab that it is made of, is a computation with a state that may end in a
fault. The laws here open such a computation one step at a time: `bind_ok` and `bind_error` run it
forwards, `bind_eq_ok_iff` takes a run that succeeded apart.

`Keeps R m` says that `m` relates every state to the state it leaves by `R`. For a reflexive and
transitive `R` it is closed under everything an audit is put together with, so that only the single
steps have to be looked at. `Gives P m` says the same of answers: whatever `m` answers satisfies `P`.
-/

namespace FabricAudit.Audit

variable {S ε α β : Type}

/-! ## One step at a time -/

theorem bind_apply (m : ExceptT ε (StateM S) α) (f : α → ExceptT ε (StateM S) β) (st : S) :
    (m >>= f) st =
      match m st with
      | (.ok a, st') => f a st'
      | (.error e, st') => (.error e, st') := by
  show (ExceptT.bindCont f (m st).1) (m st).2 = _
  rcases m st with ⟨_ | _, st'⟩ <;> rfl

@[simp] theorem pure_apply (a : α) (st : S) :
    (pure a : ExceptT ε (StateM S) α) st = (.ok a, st) := rfl

theorem map_apply (f : α → β) (m : ExceptT ε (StateM S) α) (st : S) :
    (f <$> m) st = ((m st).1.map f, (m st).2) := by
  rw [map_eq_pure_bind, bind_apply]
  rcases m st with ⟨_ | _, st'⟩ <;> rfl

theorem bind_ok {m : ExceptT ε (StateM S) α} {st st' : S} {a : α} (h : m st = (.ok a, st'))
    (f : α → ExceptT ε (StateM S) β) : (m >>= f) st = f a st' := by
  rw [bind_apply, h]

theorem bind_error {m : ExceptT ε (StateM S) α} {st st' : S} {e : ε}
    (h : m st = (.error e, st')) (f : α → ExceptT ε (StateM S) β) :
    (m >>= f) st = (.error e, st') := by
  rw [bind_apply, h]

/-- A sequence succeeds exactly if both of its parts do, one after the other. -/
theorem bind_eq_ok_iff {m : ExceptT ε (StateM S) α} {f : α → ExceptT ε (StateM S) β}
    {st st'' : S} {b : β} :
    (m >>= f) st = (.ok b, st'') ↔ ∃ a st', m st = (.ok a, st') ∧ f a st' = (.ok b, st'') := by
  constructor
  · intro h
    rcases hm : m st with ⟨e | a, st'⟩
    · rw [bind_error hm] at h
      cases h
    · rw [bind_ok hm] at h
      exact ⟨a, st', rfl, h⟩
  · rintro ⟨a, st', hm, hf⟩
    rw [bind_ok hm, hf]

/-! ## What a run does to the state -/

/-- A fresh audit of a lab: nothing has been collected. -/
def fresh {σ : Type} (w : World σ) : State σ := ⟨w, Store.empty⟩

/-- Every state is related to the state that a run of `m` leaves, whether it succeeds or not. -/
def Keeps (R : S → S → Prop) (m : ExceptT Fault (StateM S) α) : Prop := ∀ st, R st (m st).2

variable {R : S → S → Prop}

theorem Keeps.of_eq {m : ExceptT Fault (StateM S) α} (hm : Keeps R m) {st st' : S}
    {answer : Except Fault α} (h : m st = (answer, st')) : R st st' := by
  have hR := hm st
  rwa [h] at hR

theorem keeps_pure (hrefl : ∀ st, R st st) (a : α) :
    Keeps R (pure a : ExceptT Fault (StateM S) α) :=
  fun st => hrefl st

theorem Keeps.bind (htrans : ∀ {s₁ s₂ s₃}, R s₁ s₂ → R s₂ s₃ → R s₁ s₃)
    {m : ExceptT Fault (StateM S) α} {f : α → ExceptT Fault (StateM S) β} (hm : Keeps R m)
    (hf : ∀ a, Keeps R (f a)) : Keeps R (m >>= f) := by
  intro st
  rcases hr : m st with ⟨e | a, st'⟩
  · rw [bind_error hr]
    exact hm.of_eq hr
  · rw [bind_ok hr]
    exact htrans (hm.of_eq hr) (hf a st')

/-- What does not look at the state leaves it as it is, and what follows is only reached with an
answer. -/
theorem Keeps.ofExcept_bind {σ : Type} {R : State σ → State σ → Prop} (hrefl : ∀ st, R st st)
    {e : Except Fault α} {f : α → Audit σ β} (hf : ∀ a, e = .ok a → Keeps R (f a)) :
    Keeps R (ofExcept e >>= f) := by
  intro st
  have hrun : (ofExcept e : Audit σ α) st = (e, st) := rfl
  cases e with
  | error e =>
      rw [bind_error hrun]
      exact hrefl st
  | ok a =>
      rw [bind_ok hrun]
      exact hf a rfl st

theorem Keeps.mapM (hrefl : ∀ st, R st st) (htrans : ∀ {s₁ s₂ s₃}, R s₁ s₂ → R s₂ s₃ → R s₁ s₃)
    {f : α → ExceptT Fault (StateM S) β} {xs : List α} (hf : ∀ x ∈ xs, Keeps R (f x)) :
    Keeps R (xs.mapM f) := by
  induction xs with
  | nil =>
      rw [List.mapM_nil]
      exact keeps_pure hrefl _
  | cons x xs ih =>
      rw [List.mapM_cons]
      refine .bind (R := R) htrans (hf x List.mem_cons_self) fun _ => ?_
      have hrest : Keeps R (xs.mapM f) := ih fun y hy => hf y (List.mem_cons_of_mem _ hy)
      exact .bind (R := R) htrans hrest fun _ => keeps_pure hrefl _

/-- **What comes of carrying out one computation for every item**, if it succeeds: one answer for
every item, each given in a state from which the last one is reached by `R`. -/
theorem forall₂_of_mapM (hrefl : ∀ st, R st st)
    (htrans : ∀ {s₁ s₂ s₃}, R s₁ s₂ → R s₂ s₃ → R s₁ s₃)
    {f : α → ExceptT Fault (StateM S) β} (hf : ∀ x, Keeps R (f x)) (xs : List α) :
    ∀ {st st' : S} {ys : List β}, xs.mapM f st = (.ok ys, st') →
      R st st' ∧ List.Forall₂ (fun x y => ∃ s₁ s₂, f x s₁ = (.ok y, s₂) ∧ R s₂ st') xs ys := by
  induction xs with
  | nil =>
      intro st st' ys h
      rw [List.mapM_nil, pure_apply] at h
      cases h
      exact ⟨hrefl st, .nil⟩
  | cons x xs ih =>
      intro st st' ys h
      rw [List.mapM_cons] at h
      obtain ⟨y, st₁, hx, h⟩ := bind_eq_ok_iff.mp h
      obtain ⟨zs, st₂, hxs, h⟩ := bind_eq_ok_iff.mp h
      rw [pure_apply] at h
      cases h
      obtain ⟨hR, hall⟩ := ih hxs
      -- the rest of the items starts where `x` has led to
      have hstep : R st st₁ := (hf x).of_eq hx
      exact ⟨htrans hstep hR, .cons ⟨st, st₁, hx, hR⟩ hall⟩

/-- A computation for every item that fails ends at one of them, in the state that this one
leaves. -/
theorem exists_of_mapM_eq_error {f : α → ExceptT ε (StateM S) β} {xs : List α} {st st' : S} {e : ε}
    (h : xs.mapM f st = (.error e, st')) : ∃ x ∈ xs, ∃ st₁, f x st₁ = (.error e, st') := by
  induction xs generalizing st with
  | nil =>
      rw [List.mapM_nil, pure_apply] at h
      cases h
  | cons x xs ih =>
      rw [List.mapM_cons] at h
      rcases hx : f x st with ⟨e' | y, st₁⟩
      · rw [bind_error hx] at h
        cases h
        exact ⟨x, List.mem_cons_self, st, hx⟩
      rw [bind_ok hx] at h
      rcases hxs : xs.mapM f st₁ with ⟨e' | ys, st₂⟩
      · rw [bind_error hxs] at h
        cases h
        obtain ⟨x', hx', hfails⟩ := ih hxs
        exact ⟨x', List.mem_cons_of_mem _ hx', hfails⟩
      · rw [bind_ok hxs, pure_apply] at h
        cases h

/-- A computation that succeeds for every item, from every state, succeeds for all of them. -/
theorem mapM_ok_of_forall {f : α → ExceptT Fault (StateM S) β} {xs : List α}
    (h : ∀ x ∈ xs, ∀ st, ∃ y st', f x st = (.ok y, st')) (st : S) :
    ∃ ys st', xs.mapM f st = (.ok ys, st') := by
  induction xs generalizing st with
  | nil => exact ⟨[], st, by rw [List.mapM_nil, pure_apply]⟩
  | cons x xs ih =>
      obtain ⟨y, st₁, hx⟩ := h x List.mem_cons_self st
      obtain ⟨ys, st₂, hxs⟩ := ih (fun x' hx' => h x' (List.mem_cons_of_mem _ hx')) st₁
      exact ⟨y :: ys, st₂, by rw [List.mapM_cons, bind_ok hx, bind_ok hxs, pure_apply]⟩

/-! ## What a run answers -/

/-- Whatever a run of `m` answers satisfies `P`. -/
def Gives (P : α → Prop) (m : ExceptT Fault (StateM S) α) : Prop :=
  ∀ ⦃st st' a⦄, m st = (.ok a, st') → P a

theorem gives_pure {P : α → Prop} {a : α} (h : P a) :
    Gives P (pure a : ExceptT Fault (StateM S) α) := by
  intro st st' b hb
  rw [pure_apply] at hb
  cases hb
  exact h

/-- What a sequence answers is what its second part answers, after an answer of the first. -/
theorem Gives.bind_of {P : α → Prop} {Q : β → Prop} {m : ExceptT Fault (StateM S) α}
    {f : α → ExceptT Fault (StateM S) β} (hm : Gives P m) (hf : ∀ a, P a → Gives Q (f a)) :
    Gives Q (m >>= f) := by
  intro st st' b hb
  obtain ⟨a, st₁, ha, hb⟩ := bind_eq_ok_iff.mp hb
  exact hf a (hm ha) hb

theorem gives_bind {Q : β → Prop} {m : ExceptT Fault (StateM S) α}
    {f : α → ExceptT Fault (StateM S) β} (hf : ∀ a, Gives Q (f a)) : Gives Q (m >>= f) :=
  Gives.bind_of (P := fun _ => True) (fun _ _ _ _ => trivial) fun a _ => hf a

/-- Every answer of a traversal is one that is given for some item. -/
theorem gives_mapM {Q : β → Prop} {f : α → ExceptT Fault (StateM S) β} (hf : ∀ x, Gives Q (f x))
    (xs : List α) : Gives (fun ys => ∀ y ∈ ys, Q y) (xs.mapM f) := by
  intro st st' ys hys y hy
  have htrivial : ∀ x, Keeps (fun _ _ => True) (f x) := fun _ _ => trivial
  obtain ⟨-, hall⟩ := forall₂_of_mapM (fun _ => trivial) (fun _ _ => trivial) htrivial xs hys
  obtain ⟨x, -, st₁, st₂, hx, -⟩ := hall.exists_of_mem_right hy
  exact hf x hx

end FabricAudit.Audit
