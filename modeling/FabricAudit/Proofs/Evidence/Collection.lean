import FabricAudit.Evidence.Collect
import FabricAudit.Proofs.Audit.Basic
import FabricAudit.Proofs.Text.Keyed

set_option autoImplicit false

/-! # Collections of evidence

A collection names the key of its record, the telemetry request that would answer it (unless it has
the command line only) and the commands to fall back on. `Collection.run` carries one out with
`Audit.collect` or `Audit.collectByCommand`.

`Collection.Yields` says once, case by case, what a collection can do: give the record that is kept,
keep the telemetry, or turn to the commands and keep what they find, or keep nothing. Every
invariant of the store is a case analysis of it (`Collection.run_yields`), and `after_induction`
carries an invariant from one collection to any sequence of them.
-/

namespace FabricAudit

/-! ## What a collection does to the store -/

namespace Store

def keep (s : Store) (key : String) (r : Record) : Store :=
  { s with records := Keyed.insert key r s.records }

def request (s : Store) (r : Request) : Store := { s with requests := s.requests ++ [r] }

def decline (s : Store) (r : Request) : Store :=
  { s with unsupported := s.unsupported ++ [r.path], requests := s.requests ++ [r] }

@[simp] theorem keep_records (s : Store) (key : String) (r : Record) :
    (s.keep key r).records = Keyed.insert key r s.records := rfl
@[simp] theorem keep_unsupported (s : Store) (key : String) (r : Record) :
    (s.keep key r).unsupported = s.unsupported := rfl
@[simp] theorem keep_requests (s : Store) (key : String) (r : Record) :
    (s.keep key r).requests = s.requests := rfl
@[simp] theorem request_records (s : Store) (r : Request) : (s.request r).records = s.records := rfl
@[simp] theorem request_unsupported (s : Store) (r : Request) :
    (s.request r).unsupported = s.unsupported := rfl
@[simp] theorem request_requests (s : Store) (r : Request) :
    (s.request r).requests = s.requests ++ [r] := rfl
@[simp] theorem decline_records (s : Store) (r : Request) : (s.decline r).records = s.records := rfl
@[simp] theorem decline_unsupported (s : Store) (r : Request) :
    (s.decline r).unsupported = s.unsupported ++ [r.path] := rfl
@[simp] theorem decline_requests (s : Store) (r : Request) :
    (s.decline r).requests = s.requests ++ [r] := rfl

end Store

structure Collection (σ : Type) where
  key : String
  /-- The request for the telemetry that would answer it, unless there is none. -/
  telemetry : Option Request
  fallback : Work σ Document

namespace Collection

variable {σ : Type}

def run (t : Transport) (c : Collection σ) : Audit σ Record :=
  match c.telemetry with
  | some r => Audit.collect t c.key r.path r.node c.fallback
  | none => Audit.collectByCommand c.key c.fallback

/-- How a collection comes to its commands: the store that it then works with. -/
inductive TurnsTo (t : Transport) (c : Collection σ) (s : Store) : Store → Prop where
  | commandOnly (h : c.telemetry = none) : TurnsTo t c s s
  | unsupported {r : Request} (h : c.telemetry = some r) (hp : r.path ∈ s.unsupported) :
      TurnsTo t c s s
  | declined {r : Request} {reason : String} (h : c.telemetry = some r)
      (hp : r.path ∉ s.unsupported) (ht : t s.requests r = .declined reason) :
      TurnsTo t c s (s.decline r)

/-- **Everything a collection can do**, with its answer and the state it leaves. -/
inductive Yields (t : Transport) (c : Collection σ) (st : Audit.State σ) :
    Except Fault Record → Audit.State σ → Prop where
  | kept {r : Record} (h : Keyed.get? st.store.records c.key = some r) : Yields t c st (.ok r) st
  | telemetry {r : Request} {d : Document} (h : Keyed.get? st.store.records c.key = none)
      (hr : c.telemetry = some r) (hp : r.path ∉ st.store.unsupported)
      (ht : t st.store.requests r = .payload d) :
      Yields t c st (.ok ⟨.telemetry, d⟩)
        ⟨st.world, (st.store.request r).keep c.key ⟨.telemetry, d⟩⟩
  | found {s : Store} {d : Document} {w : World σ} (h : Keyed.get? st.store.records c.key = none)
      (hs : TurnsTo t c st.store s) (hf : c.fallback st.world = (.ok d, w)) :
      Yields t c st (.ok ⟨.cli, d⟩) ⟨w, s.keep c.key ⟨.cli, d⟩⟩
  | failed {s : Store} {f : Fault} {w : World σ} (h : Keyed.get? st.store.records c.key = none)
      (hs : TurnsTo t c st.store s) (hf : c.fallback st.world = (.error f, w)) :
      Yields t c st (.error f) ⟨w, s⟩

variable {t : Transport} {c : Collection σ} {st : Audit.State σ}

private theorem kept?_of_eq {key : String} {st : Audit.State σ} {o : Option Record}
    (h : Keyed.get? st.store.records key = o) :
    (Audit.kept? key : Audit σ (Option Record)) st = (.ok o, st) := by
  rw [← h]
  rfl

/-- What comes of the commands of a collection that has no record, in the store that it works
with. -/
theorem collectByCommand_yields {s : Store} (h : Keyed.get? st.store.records c.key = none)
    (hs : TurnsTo t c st.store s) (hrec : s.records = st.store.records) :
    Yields t c st (Audit.collectByCommand c.key c.fallback ⟨st.world, s⟩).1
      (Audit.collectByCommand c.key c.fallback ⟨st.world, s⟩).2 := by
  have hkept : Keyed.get? s.records c.key = none := by rw [hrec, h]
  rw [Audit.collectByCommand, Audit.bind_ok (kept?_of_eq hkept)]
  dsimp only
  rcases hf : c.fallback st.world with ⟨f | d, w⟩
  · have hwork : Audit.ofWork c.fallback ⟨st.world, s⟩ = (.error f, ⟨w, s⟩) := by
      simp only [Audit.ofWork, hf]
    rw [Audit.bind_error hwork]
    exact .failed h hs hf
  · have hwork : Audit.ofWork c.fallback ⟨st.world, s⟩ = (.ok d, ⟨w, s⟩) := by
      simp only [Audit.ofWork, hf]
    rw [Audit.bind_ok hwork]
    exact .found h hs hf

/-- What comes of a collection that has no record but a request for telemetry. -/
theorem collect_yields {r : Request} (h : Keyed.get? st.store.records c.key = none)
    (hr : c.telemetry = some r) :
    Yields t c st (Audit.collect t c.key r.path r.node c.fallback st).1
      (Audit.collect t c.key r.path r.node c.fallback st).2 := by
  rw [Audit.collect, Audit.bind_ok (kept?_of_eq h)]
  dsimp only
  have hasked : (Audit.isUnsupported r.path : Audit σ Bool) st
      = (.ok (st.store.unsupported.contains r.path), st) := rfl
  rw [Audit.bind_ok hasked]
  by_cases hp : r.path ∈ st.store.unsupported
  · -- the path was declined before: no request is made
    rw [if_pos (List.contains_iff_mem.mpr hp)]
    exact collectByCommand_yields h (.unsupported hr hp) rfl
  · rw [if_neg (fun hc => hp (List.contains_iff_mem.mp hc))]
    have hreq : (Audit.request t r : Audit σ TelemetryAnswer) st
        = (.ok (t st.store.requests r), ⟨st.world, st.store.request r⟩) := rfl
    rw [Audit.bind_ok hreq]
    rcases ht : t st.store.requests r with d | reason
    · exact .telemetry h hr hp ht
    · exact collectByCommand_yields h (.declined hr hp ht) rfl

/-- **A collection does one of the things that `Yields` lists.** -/
theorem run_yields (t : Transport) (c : Collection σ) (st : Audit.State σ) :
    Yields t c st (c.run t st).1 (c.run t st).2 := by
  rcases hk : Keyed.get? st.store.records c.key with _ | record
  · rcases hr : c.telemetry with _ | r
    · simp only [run, hr]
      exact collectByCommand_yields hk (.commandOnly hr) rfl
    · simp only [run, hr]
      exact collect_yields hk hr
  · -- a kept record answers with telemetry and without
    have hrun : c.run t st = (.ok record, st) := by
      rcases hr : c.telemetry with _ | r <;>
        simp only [run, hr, Audit.collect, Audit.collectByCommand, Audit.bind_ok (kept?_of_eq hk),
          Audit.pure_apply]
    rw [hrun]
    exact .kept hk

/-! ## Sequences of collections -/

def after (t : Transport) (cs : List (Collection σ)) (st : Audit.State σ) : Audit.State σ :=
  cs.foldl (fun st c => (c.run t st).2) st

@[simp] theorem after_nil (t : Transport) (st : Audit.State σ) : after t [] st = st := rfl

@[simp] theorem after_cons (t : Transport) (c : Collection σ) (cs : List (Collection σ))
    (st : Audit.State σ) : after t (c :: cs) st = after t cs (c.run t st).2 := rfl

theorem after_append (t : Transport) (cs ds : List (Collection σ)) (st : Audit.State σ) :
    after t (cs ++ ds) st = after t ds (after t cs st) :=
  List.foldl_append

/-- What every collection preserves, a sequence of collections preserves. -/
theorem after_induction {t : Transport} {P : Audit.State σ → Prop}
    (hstep : ∀ (c : Collection σ) st, P st → P (c.run t st).2) (cs : List (Collection σ))
    {st : Audit.State σ} (h : P st) : P (after t cs st) := by
  induction cs generalizing st with
  | nil => exact h
  | cons c cs ih => exact ih (hstep c st h)

/-! ## The store only grows -/

end Collection

/-- The later store `s'` has all that the earlier one `s` has: the records stay what they are, the
downgraded paths stay downgraded, and none of them is requested again. -/
structure Store.Grows (s s' : Store) : Prop where
  records : ∀ {key : String} {r : Record},
    Keyed.get? s.records key = some r → Keyed.get? s'.records key = some r
  unsupported : ∀ {path : String}, path ∈ s.unsupported → path ∈ s'.unsupported
  requests : ∃ more, s'.requests = s.requests ++ more ∧ ∀ r ∈ more, r.path ∉ s.unsupported

namespace Store.Grows

theorem refl (s : Store) : s.Grows s := ⟨id, id, [], by simp, by simp⟩

theorem trans {s₁ s₂ s₃ : Store} (h : s₁.Grows s₂) (h' : s₂.Grows s₃) : s₁.Grows s₃ := by
  obtain ⟨more, hm, hmore⟩ := h.requests
  obtain ⟨more', hm', hmore'⟩ := h'.requests
  refine ⟨fun hr => h'.records (h.records hr), fun hp => h'.unsupported (h.unsupported hp),
    more ++ more', by rw [hm', hm, List.append_assoc], ?_⟩
  intro r hr
  rcases List.mem_append.mp hr with hr | hr
  · exact hmore r hr
  · exact fun hp => hmore' r hr (h.unsupported hp)

theorem keep {key : String} (s : Store) (r : Record) (h : Keyed.get? s.records key = none) :
    s.Grows (s.keep key r) := by
  refine ⟨fun {k v} hk => ?_, id, [], by simp, by simp⟩
  -- a record that is there already is under another key
  have hne : key ≠ k := by
    intro he
    subst he
    rw [h] at hk
    cases hk
  rw [Store.keep_records, Keyed.get?_insert_of_ne hne]
  exact hk

theorem request {s : Store} {r : Request} (hp : r.path ∉ s.unsupported) : s.Grows (s.request r) :=
  ⟨id, id, [r], rfl, by simpa using hp⟩

theorem decline {s : Store} {r : Request} (hp : r.path ∉ s.unsupported) : s.Grows (s.decline r) :=
  ⟨id, fun h => List.mem_append_left _ h, [r], rfl, by simpa using hp⟩

end Store.Grows

namespace Collection

variable {σ : Type} {t : Transport} {c : Collection σ} {st : Audit.State σ}

theorem TurnsTo.records_eq {s s' : Store} (h : TurnsTo t c s s') : s'.records = s.records := by
  cases h <;> rfl

theorem TurnsTo.grows {s s' : Store} (h : TurnsTo t c s s') : s.Grows s' := by
  cases h with
  | commandOnly => exact .refl s
  | unsupported => exact .refl s
  | declined _ hp _ => exact .decline hp

/-- **A collection only adds to the store.** -/
theorem run_grows (t : Transport) (c : Collection σ) (st : Audit.State σ) :
    st.store.Grows (c.run t st).2.store := by
  have h := c.run_yields t st
  generalize (c.run t st).1 = answer, (c.run t st).2 = st' at h
  cases h with
  | kept => exact .refl _
  | telemetry hk _ hp _ => exact (Store.Grows.request hp).trans (.keep _ _ hk)
  | found hk hs _ => exact hs.grows.trans (.keep _ _ (by rw [hs.records_eq, hk]))
  | failed _ hs _ => exact hs.grows

theorem after_grows (t : Transport) (cs : List (Collection σ)) (st : Audit.State σ) :
    st.store.Grows (after t cs st).store :=
  after_induction (P := fun st' => st.store.Grows st'.store)
    (fun c st' h => h.trans (c.run_grows t st')) cs (.refl _)

end Collection

end FabricAudit
