import FabricAudit.Proofs.Audit.Ending

set_option autoImplicit false

/-! # Audits as exchanges

On a lab that executes every command, an audit that looks at nothing else is an exchange with the
lab: commands and their replies, in order, and then an answer. `Converses lab post m` says that `m`
is such an audit, from whatever state it begins, and that `post` holds of what was exchanged and of
the answer. The exchange is the true one: these are the commands that the world has noted since, and
the lab gives the same replies if they are given to it once more (`Exchanged`).

Two audits one after the other have the one exchange and then the other. An audit for every item
goes in rounds, one for each item and each with an exchange and an answer of its own.
-/

namespace FabricAudit

variable {σ α β : Type}

/-- Whatever is asked of the lab, it can execute. -/
def Lab.ExecutesAll (lab : Lab σ) : Prop := ∀ c s, ∃ reply, (lab.answer c s).1 = .ok reply

/-- Commands with the replies to them, in order. -/
abbrev Exchange := List (Call × Reply)

def Exchange.calls (exchange : Exchange) : List Call := exchange.map Prod.fst

namespace Audit

/-! ## What happens between two states -/

/-- Between two states the lab was given commands and gave these replies, and nothing else
happened. -/
structure Exchanged (lab : Lab σ) (st st' : State σ) (exchange : Exchange) : Prop where
  calls_eq : st'.world.calls = st.world.calls ++ exchange.calls
  state_eq : st'.world.state = lab.after exchange.calls st.world.state
  replies_eq : lab.replies exchange.calls st.world.state = exchange.map fun e => .ok e.2
  store_eq : st'.store = st.store

namespace Exchanged

variable {lab : Lab σ} {st st' st'' : State σ} {exchange exchange' : Exchange}

theorem refl (lab : Lab σ) (st : State σ) : Exchanged lab st st [] :=
  ⟨(List.append_nil _).symm, rfl, rfl, rfl⟩

theorem trans (h : Exchanged lab st st' exchange) (h' : Exchanged lab st' st'' exchange') :
    Exchanged lab st st'' (exchange ++ exchange') := by
  have hcalls : Exchange.calls (exchange ++ exchange') = exchange.calls ++ exchange'.calls :=
    List.map_append
  refine ⟨?_, ?_, ?_, h'.store_eq.trans h.store_eq⟩
  · rw [h'.calls_eq, h.calls_eq, hcalls, List.append_assoc]
  · rw [h'.state_eq, h.state_eq, hcalls, Lab.after_append]
  · -- the second half was replied to in the state that the first half leads to
    rw [hcalls, Lab.replies_append, h.replies_eq, ← h.state_eq, h'.replies_eq, List.map_append]

end Exchanged

/-! ## Conversations -/

/-- An audit gives an answer, after an exchange with the lab. -/
def Converses (lab : Lab σ) (post : Exchange → α → Prop) (m : Audit σ α) : Prop :=
  ∀ st, ∃ exchange a st', m st = (.ok a, st') ∧ Exchanged lab st st' exchange ∧ post exchange a

namespace Converses

variable {lab : Lab σ} {post : Exchange → α → Prop}

theorem imp {post' : Exchange → α → Prop} {m : Audit σ α} (hm : Converses lab post m)
    (h : ∀ exchange a, post exchange a → post' exchange a) : Converses lab post' m := by
  intro st
  obtain ⟨exchange, a, st', hrun, hexchanged, hpost⟩ := hm st
  exact ⟨exchange, a, st', hrun, hexchanged, h exchange a hpost⟩

theorem pure {a : α} (h : post [] a) : Converses lab post (pure a : Audit σ α) :=
  fun st => ⟨[], a, st, rfl, .refl lab st, h⟩

/-- A command is replied to. -/
theorem perform (hlab : lab.ExecutesAll) {c : Call} {post : Exchange → Reply → Prop}
    (h : ∀ reply, post [(c, reply)] reply) : Converses lab post (ofWork (lab.perform c)) := by
  intro st
  obtain ⟨reply, hreply⟩ := hlab c st.world.state
  refine ⟨[(c, reply)], reply, (ofWork (lab.perform c) st).2, ?_, ⟨rfl, rfl, ?_, rfl⟩, h reply⟩
  · exact Prod.ext hreply rfl
  · exact congrArg (· :: []) hreply

/-- One audit after another. -/
theorem bind {post' : Exchange → β → Prop} {m : Audit σ α} {f : α → Audit σ β}
    (hm : Converses lab post m)
    (hf : ∀ exchange a, post exchange a →
      Converses lab (fun exchange' b => post' (exchange ++ exchange') b) (f a)) :
    Converses lab post' (m >>= f) := by
  intro st
  obtain ⟨exchange, a, st₁, hrun, hexchanged, hpost⟩ := hm st
  obtain ⟨exchange', b, st₂, hrun', hexchanged', hpost'⟩ := hf exchange a hpost st₁
  refine ⟨exchange ++ exchange', b, st₂, ?_, hexchanged.trans hexchanged', hpost'⟩
  rw [bind_ok hrun, hrun']

/-- A last step that only makes something of the answer. -/
theorem map {post' : Exchange → β → Prop} {m : Audit σ α} {f : α → β} (hm : Converses lab post m)
    (hf : ∀ exchange a, post exchange a → post' exchange (f a)) :
    Converses lab post' (do Pure.pure (f (← m)) : Audit σ β) :=
  hm.bind fun exchange a h => .pure (by rw [List.append_nil]; exact hf exchange a h)

/-- **One audit for every item** goes in rounds, one after the other. -/
theorem mapM {f : α → Audit σ β} {post : α → Exchange → β → Prop}
    (hf : ∀ x, Converses lab (post x) (f x)) (xs : List α) :
    Converses lab (fun exchange ys => ∃ rounds : List (Exchange × β),
      List.Forall₂ (fun x round => post x round.1 round.2) xs rounds ∧
      exchange = (rounds.map Prod.fst).flatten ∧ ys = rounds.map Prod.snd) (xs.mapM f) := by
  induction xs with
  | nil =>
      rw [List.mapM_nil]
      exact .pure ⟨[], .nil, rfl, rfl⟩
  | cons x xs ih =>
      rw [List.mapM_cons]
      refine (hf x).bind fun exchange y hy => ih.map ?_
      rintro _ _ ⟨rounds, hrounds, rfl, rfl⟩
      exact ⟨(exchange, y) :: rounds, .cons hy hrounds, rfl, rfl⟩

end Converses

end Audit

end FabricAudit
