import FabricAudit.Proofs.Audit.Basic
import FabricAudit.Proofs.Evidence.Kind

set_option autoImplicit false

/-! # How audits end

An audit ends with an answer or with a fault. `Ends lab post cause m` says of both what can be said
afterwards, from whatever state `m` begins in: after an answer, every command that was given to the
lab could be executed and `post` holds of the answer; after a fault, one of the commands could not
be executed and that is the fault, or else there is a `cause` for it.

The replies of the lab are those of the commands noted in the world, given once more from the state
in which the audit began (`Lab.replies`). Both `post` and `cause` speak of the store that the audit
leaves. Evidence is only added to a store, so a `post` that looks at records stays true
(`IsStable`), and rules for the ways in which audits are put together are all that is needed.
-/

namespace FabricAudit

variable {σ α β : Type}

/-! ## Replies -/

namespace Lab

def after (lab : Lab σ) : List Call → σ → σ
  | [], s => s
  | c :: cs, s => lab.after cs (lab.answer c s).2

/-- The replies of a lab to commands that are given one after the other. -/
def replies (lab : Lab σ) : List Call → σ → List (Except Fault Reply)
  | [], _ => []
  | c :: cs, s => (lab.answer c s).1 :: lab.replies cs (lab.answer c s).2

theorem after_append (lab : Lab σ) (cs ds : List Call) (s : σ) :
    lab.after (cs ++ ds) s = lab.after ds (lab.after cs s) := by
  induction cs generalizing s with
  | nil => rfl
  | cons c cs ih => exact ih _

theorem replies_append (lab : Lab σ) (cs ds : List Call) (s : σ) :
    lab.replies (cs ++ ds) s = lab.replies cs s ++ lab.replies ds (lab.after cs s) := by
  induction cs generalizing s with
  | nil => rfl
  | cons c cs ih => exact congrArg _ (ih _)

end Lab

namespace Audit

/-! ## What happens between two states -/

/-- Between two states the lab was given commands, and evidence was added to the store. -/
structure Advances (lab : Lab σ) (st st' : State σ) (calls : List Call) : Prop where
  calls_eq : st'.world.calls = st.world.calls ++ calls
  state_eq : st'.world.state = lab.after calls st.world.state
  grows : st.store.Grows st'.store

namespace Advances

variable {lab : Lab σ} {st st' st'' : State σ} {calls calls' : List Call}

theorem refl (lab : Lab σ) (st : State σ) : Advances lab st st [] :=
  ⟨(List.append_nil _).symm, rfl, .refl _⟩

theorem trans (h : Advances lab st st' calls) (h' : Advances lab st' st'' calls') :
    Advances lab st st'' (calls ++ calls') := by
  refine ⟨?_, ?_, h.grows.trans h'.grows⟩
  · rw [h'.calls_eq, h.calls_eq, List.append_assoc]
  · rw [h'.state_eq, h.state_eq, Lab.after_append]

/-- The replies between the first and the last of three states are those on either side of the
second one. -/
theorem replies_append (h : Advances lab st st' calls) (calls' : List Call) :
    lab.replies (calls ++ calls') st.world.state
      = lab.replies calls st.world.state ++ lab.replies calls' st'.world.state := by
  rw [Lab.replies_append, h.state_eq]

end Advances

/-! ## Endings -/

/-- How an audit that began in a state has ended, with its answer and the state that it leaves. -/
inductive Ending (lab : Lab σ) (post : α → Store → Prop) (cause : Fault → Store → Prop)
    (st : State σ) : Except Fault α → State σ → Prop where
  /-- Every command could be executed, and the answer is as it should be. -/
  | answered {a : α} {st' : State σ} {calls : List Call} (h : Advances lab st st' calls)
      (hall : ∀ f, .error f ∉ lab.replies calls st.world.state) (hpost : post a st'.store) :
      Ending lab post cause st (.ok a) st'
  /-- A command could not be executed. -/
  | refused {f : Fault} {st' : State σ} {calls : List Call} (h : Advances lab st st' calls)
      (hf : .error f ∈ lab.replies calls st.world.state) : Ending lab post cause st (.error f) st'
  /-- There is another cause. -/
  | failed {f : Fault} {st' : State σ} {calls : List Call} (h : Advances lab st st' calls)
      (hcause : cause f st'.store) : Ending lab post cause st (.error f) st'

/-- An audit ends with an answer after which `post` holds, or else with a fault for which a command
or a `cause` is to blame. -/
def Ends (lab : Lab σ) (post : α → Store → Prop) (cause : Fault → Store → Prop) (m : Audit σ α) :
    Prop :=
  ∀ st, Ending lab post cause st (m st).1 (m st).2

/-- What holds of a store holds of every store that has at least its evidence. -/
def IsStable (post : α → Store → Prop) : Prop :=
  ∀ ⦃a : α⦄ ⦃s s' : Store⦄, s.Grows s' → post a s → post a s'

variable {lab : Lab σ} {post : α → Store → Prop} {cause : Fault → Store → Prop}

/-- An ending, seen from an earlier state between which and the beginning all went well. -/
theorem Ending.after {st st' st'' : State σ} {calls : List Call} {answer : Except Fault α}
    (h : Advances lab st st' calls) (hall : ∀ f, .error f ∉ lab.replies calls st.world.state)
    (he : Ending lab post cause st' answer st'') : Ending lab post cause st answer st'' := by
  cases he with
  | answered h' hall' hpost =>
      refine .answered (h.trans h') (fun f hf => ?_) hpost
      rw [h.replies_append] at hf
      rcases List.mem_append.mp hf with hf | hf
      · exact hall f hf
      · exact hall' f hf
  | refused h' hf =>
      refine .refused (h.trans h') ?_
      rw [h.replies_append]
      exact List.mem_append_right _ hf
  | failed h' hcause => exact .failed (h.trans h') hcause

theorem Ending.imp {post' : α → Store → Prop} {cause' : Fault → Store → Prop} {st st' : State σ}
    {answer : Except Fault α} (he : Ending lab post cause st answer st')
    (hpost : ∀ a s, post a s → post' a s) (hcause : ∀ f s, cause f s → cause' f s) :
    Ending lab post' cause' st answer st' := by
  cases he with
  | answered h hall hp => exact .answered h hall (hpost _ _ hp)
  | refused h hf => exact .refused h hf
  | failed h hc => exact .failed h (hcause _ _ hc)

namespace Ends

theorem of_eq {m : Audit σ α} (hm : Ends lab post cause m) {st st' : State σ}
    {answer : Except Fault α} (h : m st = (answer, st')) :
    Ending lab post cause st answer st' := by
  have hend := hm st
  rwa [h] at hend

theorem imp {m : Audit σ α} {post' : α → Store → Prop} {cause' : Fault → Store → Prop}
    (hm : Ends lab post cause m) (hpost : ∀ a s, post a s → post' a s)
    (hcause : ∀ f s, cause f s → cause' f s) : Ends lab post' cause' m :=
  fun st => (hm st).imp hpost hcause

/-! ## Single steps -/

theorem pure {a : α} (h : ∀ s, post a s) : Ends lab post cause (pure a : Audit σ α) :=
  fun st => .answered (.refl lab st) (fun _ hf => List.not_mem_nil hf) (h st.store)

/-- What does not look at the state ends as it is. -/
theorem ofExcept {e : Except Fault α} (hok : ∀ a, e = .ok a → ∀ s, post a s)
    (herror : ∀ f, e = .error f → ∀ s, cause f s) :
    Ends lab post cause (Audit.ofExcept e : Audit σ α) := by
  intro st
  show Ending lab post cause st e st
  cases e with
  | ok a => exact .answered (.refl lab st) (fun _ hf => List.not_mem_nil hf) (hok a rfl _)
  | error f => exact .failed (.refl lab st) (herror f rfl _)

theorem ofReading {e : Except ReadFault α} (hok : ∀ a, e = .ok a → ∀ s, post a s)
    (herror : ∀ f, e = .error f → ∀ s, cause (.json f) s) :
    Ends lab post cause (Audit.ofReading e : Audit σ α) := by
  refine .ofExcept (fun a ha => ?_) fun f hf => ?_
  · cases e with
    | ok b => exact hok a (by cases ha; rfl)
    | error g => cases ha
  · cases e with
    | ok b => cases hf
    | error g => cases hf; exact herror g rfl

/-- A command ends in no fault but one of its own. -/
theorem perform (c : Call) :
    Ends lab (fun _ _ => True) cause (Audit.ofWork (lab.perform c)) := by
  intro st
  have hstep : Advances lab st (Audit.ofWork (lab.perform c) st).2 [c] := ⟨rfl, rfl, .refl _⟩
  have hanswer : (Audit.ofWork (lab.perform c) st).1 = (lab.answer c st.world.state).1 := rfl
  rw [hanswer]
  rcases hr : (lab.answer c st.world.state).1 with f | reply
  · refine .refused hstep ?_
    rw [Lab.replies, hr]
    exact List.mem_cons_self
  · refine .answered hstep (fun f hf => ?_) trivial
    rw [Lab.replies, hr] at hf
    cases hf with
    | tail _ hf => exact List.not_mem_nil hf

/-! ## Sequences -/

/-- One audit after another, if the second one ends as it should wherever the first one leads. -/
theorem bind_of_ending {m : Audit σ α} {f : α → Audit σ β} {post' : β → Store → Prop}
    (hm : Ends lab post cause m)
    (hf : ∀ a st, post a st.store → Ending lab post' cause st (f a st).1 (f a st).2) :
    Ends lab post' cause (m >>= f) := by
  intro st
  rcases hr : m st with ⟨e | a, st'⟩
  · rw [bind_error hr]
    cases hm.of_eq hr with
    | refused h hf => exact .refused h hf
    | failed h hcause => exact .failed h hcause
  · rw [bind_ok hr]
    cases hm.of_eq hr with
    | answered h hall hpost => exact .after h hall (hf a st' hpost)

/-- One audit after another, if what is known of the first answer is not a matter of the store. -/
theorem bind_of {P : α → Prop} {m : Audit σ α} {f : α → Audit σ β} {post' : β → Store → Prop}
    (hm : Ends lab (fun a _ => P a) cause m) (hf : ∀ a, P a → Ends lab post' cause (f a)) :
    Ends lab post' cause (m >>= f) :=
  hm.bind_of_ending fun a st ha => hf a ha st

/-- One audit after another. What is known of the first answer can be used at the end of the
second. -/
theorem bind {m : Audit σ α} {f : α → Audit σ β} {post' : β → Store → Prop}
    (hm : Ends lab post cause m) (hstable : IsStable post)
    (hf : ∀ a, Ends lab (fun b s => post a s → post' b s) (fun e s => post a s → cause e s) (f a)) :
    Ends lab post' cause (m >>= f) := by
  refine hm.bind_of_ending fun a st hpost => ?_
  have hend := hf a st
  generalize (f a st).1 = answer, (f a st).2 = st' at hend
  cases hend with
  | answered h hall hp => exact .answered h hall (hp (hstable h.grows hpost))
  | refused h hf => exact .refused h hf
  | failed h hc => exact .failed h (hc (hstable h.grows hpost))

/-- **One audit for every item**: it has an answer for each of them, or else ends at one. -/
theorem mapM {f : α → Audit σ β} {post : α → β → Store → Prop} {cause : α → Fault → Store → Prop}
    (hstable : ∀ x, IsStable (post x)) (hf : ∀ x, Ends lab (post x) (cause x) (f x)) (xs : List α) :
    Ends lab (fun ys s => List.Forall₂ (fun x y => post x y s) xs ys)
      (fun e s => ∃ x ∈ xs, cause x e s) (xs.mapM f) := by
  induction xs with
  | nil =>
      rw [List.mapM_nil]
      exact .pure fun _ => .nil
  | cons x xs ih =>
      rw [List.mapM_cons]
      have hfirst : Ends lab (post x) (fun e s => ∃ y ∈ x :: xs, cause y e s) (f x) :=
        (hf x).imp (fun _ _ h => h) fun _ _ h => ⟨x, List.mem_cons_self, h⟩
      have hstableAll : IsStable fun ys s => List.Forall₂ (fun x y => post x y s) xs ys :=
        fun ys s s' hgrows h => h.imp fun x y hxy => hstable x hgrows hxy
      refine hfirst.bind (hstable x) fun y => ?_
      have hrest : Ends lab (fun ys s => List.Forall₂ (fun x y => post x y s) xs ys)
          (fun e s => post x y s → ∃ x' ∈ x :: xs, cause x' e s) (xs.mapM f) :=
        ih.imp (fun _ _ h => h) fun _ _ ⟨x', hx', h⟩ _ => ⟨x', List.mem_cons_of_mem _ hx', h⟩
      exact hrest.bind hstableAll fun ys => .pure fun s hys hy => .cons hy hys

end Ends

/-! ## Work on the lab -/

theorem ofWork_of_eq {w : Work σ α} {st : State σ} {answer : Except Fault α} {world : World σ}
    (h : w st.world = (answer, world)) : ofWork w st = (answer, ⟨world, st.store⟩) := by
  rw [ofWork, h]

theorem ofWork_bind (w : Work σ α) (f : α → Work σ β) :
    ofWork (w >>= f) = ofWork w >>= fun a => ofWork (f a) := by
  funext st
  rcases hw : w st.world with ⟨e | a, world⟩
  · rw [bind_error (ofWork_of_eq hw)]
    exact ofWork_of_eq (bind_error hw f)
  · rw [bind_ok (ofWork_of_eq hw)]
    exact ofWork_of_eq (bind_ok hw f)

end Audit

/-! ## Collectors -/

namespace EvidenceKind

variable {lab : Lab σ} {cause : Fault → Store → Prop}

/-- The commands of a collector end in no fault but one of their own. -/
theorem fallback_ends (kind : EvidenceKind) (node : String) :
    Audit.Ends lab (fun _ _ => True) cause (Audit.ofWork (kind.fallback lab node)) := by
  have hone : ∀ (command : String) (data : Reply → Document),
      Audit.Ends lab (fun _ _ => True) cause
        (Audit.ofWork (do pure (data (← lab.switch node command)) : Work σ Document)) := by
    intro command data
    rw [Audit.ofWork_bind]
    exact (Audit.Ends.perform _).bind_of fun r _ => .pure fun _ => trivial
  cases kind with
  | interfaces => exact hone _ _
  | sessions => exact hone _ _
  | runningConfig => exact hone _ _
  | evpnRoutes => exact hone _ _
  | evpnSummary =>
      -- the only collector with two commands
      rw [fallback, Audit.ofWork_bind]
      refine (Audit.Ends.perform _).bind_of fun bgp _ => ?_
      rw [Audit.ofWork_bind]
      exact (Audit.Ends.perform _).bind_of fun evpn _ => .pure fun _ => trivial

/-- **A collector** gives the record that it leaves in the store, and ends in no fault but those of
its commands. -/
theorem collect_ends (t : Transport) (kind : EvidenceKind) (node : String) :
    Audit.Ends lab (fun r s => Keyed.get? s.records (kind.key node) = some r) cause
      (kind.collect lab t node) := by
  intro st
  rw [kind.collect_eq_run]
  have hyields := (kind.collection lab node).run_yields t st
  have hgrows := (kind.collection lab node).run_grows t st
  generalize ((kind.collection lab node).run t st).1 = answer,
    ((kind.collection lab node).run t st).2 = st' at hyields hgrows ⊢
  cases hyields with
  | kept hk => exact .answered (.refl lab st) (fun _ hf => List.not_mem_nil hf) hk
  | telemetry =>
      refine .answered ⟨(List.append_nil _).symm, rfl, hgrows⟩ (fun _ hf => List.not_mem_nil hf) ?_
      exact Keyed.get?_insert_self _ _ _
  -- a new record: what the commands did to the lab is all that the collector did
  | @found s d w _ _ hfound =>
      have hend : Audit.Ending lab (fun _ _ => True) cause ⟨st.world, s⟩ (.ok d) ⟨w, s⟩ :=
        (kind.fallback_ends node).of_eq (Audit.ofWork_of_eq hfound)
      cases hend with
      | answered h hall _ =>
          exact .answered ⟨h.calls_eq, h.state_eq, hgrows⟩ hall (Keyed.get?_insert_self _ _ _)
  | @failed s f w _ _ hfailed =>
      have hend : Audit.Ending lab (fun _ _ => True) (fun _ _ => False) ⟨st.world, s⟩ (.error f)
          ⟨w, s⟩ := (kind.fallback_ends node).of_eq (Audit.ofWork_of_eq hfailed)
      cases hend with
      | refused h hf => exact .refused ⟨h.calls_eq, h.state_eq, hgrows⟩ hf
      | failed _ hcause => exact hcause.elim

end EvidenceKind

end FabricAudit
