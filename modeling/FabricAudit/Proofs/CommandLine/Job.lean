import FabricAudit.CommandLine.Console
import FabricAudit.Proofs.Audit.Basic
import FabricAudit.Proofs.Document.Refusal

set_option autoImplicit false

/-! # What jobs lead to

A job that succeeds gives an answer and leaves a console, and `Succeeds m c post` says that it does
so from `c`, with `post` of both. There is an equivalence for every way in which jobs are put
together, so what a command needs in order to succeed is found by rewriting.
-/

namespace FabricAudit.Job

variable {σ α β : Type}

/-- The job succeeds, and `post` holds of its answer and of the console that it leaves. -/
def Succeeds (m : Job σ α) (c : Console σ) (post : α → Console σ → Prop) : Prop :=
  ∃ a c', m c = (.ok a, c') ∧ post a c'

variable {c : Console σ} {post : α → Console σ → Prop}

theorem succeeds_iff {m : Job σ α} :
    Succeeds m c post ↔ ∃ a, (m c).1 = .ok a ∧ post a (m c).2 := by
  constructor
  · rintro ⟨a, c', h, hpost⟩
    rw [h]
    exact ⟨a, rfl, hpost⟩
  · rintro ⟨a, ha, hpost⟩
    exact ⟨a, _, Prod.ext ha rfl, hpost⟩

theorem succeeds_of_eq_ok {m : Job σ α} {a : α} {c' : Console σ} (h : m c = (.ok a, c')) :
    Succeeds m c post ↔ post a c' := by
  constructor
  · rintro ⟨a', c'', h', hpost⟩
    rw [h] at h'
    cases h'
    exact hpost
  · exact fun hpost => ⟨a, c', h, hpost⟩

theorem not_succeeds_of_eq_error {m : Job σ α} {f : Fault} {c' : Console σ}
    (h : m c = (.error f, c')) : ¬ Succeeds m c post := by
  rintro ⟨a, c'', h', -⟩
  rw [h] at h'
  cases h'

/-- **One job after another.** -/
@[simp] theorem succeeds_bind {m : Job σ β} {f : β → Job σ α} :
    Succeeds (m >>= f) c post ↔ Succeeds m c fun b c' => Succeeds (f b) c' post := by
  constructor
  · rintro ⟨a, c'', h, hpost⟩
    obtain ⟨b, c', hm, hf⟩ := Audit.bind_eq_ok_iff.mp h
    exact ⟨b, c', hm, a, c'', hf, hpost⟩
  · rintro ⟨b, c', hm, a, c'', hf, hpost⟩
    exact ⟨a, c'', Audit.bind_eq_ok_iff.mpr ⟨b, c', hm, hf⟩, hpost⟩

@[simp] theorem succeeds_pure {a : α} : Succeeds (pure a : Job σ α) c post ↔ post a c :=
  succeeds_of_eq_ok rfl

/-- A job with two ways to go. -/
theorem succeeds_ite {p : Prop} [Decidable p] {m m' : Job σ α} :
    Succeeds (if p then m else m') c post ↔
      if p then Succeeds m c post else Succeeds m' c post := by
  split <;> rfl

@[simp] theorem succeeds_throw {f : Fault} : ¬ Succeeds (throw f : Job σ α) c post :=
  not_succeeds_of_eq_error rfl

@[simp] theorem succeeds_get {post : Console σ → Console σ → Prop} :
    Succeeds (get : Job σ (Console σ)) c post ↔ post c c :=
  succeeds_of_eq_ok rfl

/-! ## What is said -/

@[simp] theorem succeeds_say {line : String} {post : Unit → Console σ → Prop} :
    Succeeds (say line) c post ↔ post () { c with output := c.output ++ [line] } :=
  succeeds_of_eq_ok rfl

@[simp] theorem succeeds_sayAll {lines : List String} {post : Unit → Console σ → Prop} :
    Succeeds (sayAll lines) c post ↔ post () { c with output := c.output ++ lines } :=
  succeeds_of_eq_ok rfl

@[simp] theorem succeeds_report {line : String} {post : Unit → Console σ → Prop} :
    Succeeds (report line) c post ↔ post () { c with errors := c.errors ++ [line] } :=
  succeeds_of_eq_ok rfl

/-! ## Files and audits -/

@[simp] theorem succeeds_fromFiles {f : FileTree → Except Fault α} :
    Succeeds (fromFiles f) c post ↔ ∃ a, f c.files = .ok a ∧ post a c :=
  succeeds_iff

@[simp] theorem succeeds_ofFiles {w : FileTree.Work α} :
    Succeeds (ofFiles w) c post ↔
      ∃ a files, w c.files = (.ok a, files) ∧ post a { c with files := files } := by
  have hrun : (ofFiles w : Job σ α) c
      = ((w c.files).1.mapError .file, { c with files := (w c.files).2 }) := rfl
  rw [succeeds_iff, hrun]
  constructor
  · rintro ⟨a, ha, hpost⟩
    exact ⟨a, _, Prod.ext (Except.mapError_eq_ok_iff.mp ha) rfl, hpost⟩
  · rintro ⟨a, files, hw, hpost⟩
    rw [hw]
    exact ⟨a, rfl, hpost⟩

@[simp] theorem succeeds_ofAudit {a : Audit σ β} {store : Store}
    {post : β × Store → Console σ → Prop} :
    Succeeds (ofAudit a store) c post ↔ ∃ b st, a ⟨⟨c.engine, []⟩, store⟩ = (.ok b, st) ∧
      post (b, st.store) { c with engine := st.world.state } := by
  have hrun : (ofAudit a store : Job σ (β × Store)) c
      = ((a ⟨⟨c.engine, []⟩, store⟩).1.map fun b => (b, (a ⟨⟨c.engine, []⟩, store⟩).2.store),
          { c with engine := (a ⟨⟨c.engine, []⟩, store⟩).2.world.state }) := rfl
  rw [succeeds_iff, hrun]
  rcases a ⟨⟨c.engine, []⟩, store⟩ with ⟨answer, st⟩
  constructor
  · rintro ⟨_, hanswer, hpost⟩
    obtain ⟨b, rfl, rfl⟩ := Except.map_eq_ok_iff.mp hanswer
    exact ⟨b, st, rfl, hpost⟩
  · rintro ⟨b, _, ⟨⟩, hpost⟩
    exact ⟨_, rfl, hpost⟩

end FabricAudit.Job
