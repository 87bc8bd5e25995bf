import Mathlib.Tactic
import FabricAudit.Proofs.Evidence.Collection

set_option autoImplicit false

/-! # Evidence is collected once

A record that was given once is what its key stands for from then on: whoever asks for the key gets
that record, and nothing else happens. What could not be collected leaves no record, and at most the
path that was declined on the way. So the records are one for each key that was answered, which is
the invariant `Holds` of a store and the keys answered so far.
-/

namespace FabricAudit.Collection

variable {σ : Type} {t : Transport} {c : Collection σ} {st : Audit.State σ}

/-! ## One collection -/

/-- A collection whose key has a record gives that record and leaves everything as it is. -/
theorem run_of_kept {r : Record} (h : Keyed.get? st.store.records c.key = some r) :
    c.run t st = (.ok r, st) := by
  have hy := c.run_yields t st
  rcases hrun : c.run t st with ⟨answer, st'⟩
  rw [hrun] at hy
  -- in every other case the key had no record
  cases hy with
  | kept hk =>
      rw [h] at hk
      cases hk
      rfl
  | telemetry hk _ _ _ => rw [h] at hk; cases hk
  | found hk _ _ => rw [h] at hk; cases hk
  | failed hk _ _ => rw [h] at hk; cases hk

/-- The record that a collection gives is kept under its key. -/
theorem get?_run_of_ok {r : Record} (h : (c.run t st).1 = .ok r) :
    Keyed.get? (c.run t st).2.store.records c.key = some r := by
  have hy := c.run_yields t st
  rw [h] at hy
  generalize (c.run t st).2 = st' at hy
  cases hy with
  | kept hk => exact hk
  | telemetry => exact Keyed.get?_insert_self _ _ _
  | found => exact Keyed.get?_insert_self _ _ _

/-- A collection that fails leaves the records as they were, and downgrades at most its own path. -/
theorem run_of_error {f : Fault} (h : (c.run t st).1 = .error f) :
    (c.run t st).2.store.records = st.store.records ∧
      ((c.run t st).2.store.unsupported = st.store.unsupported ∨
        ∃ r, c.telemetry = some r ∧
          (c.run t st).2.store.unsupported = st.store.unsupported ++ [r.path]) := by
  have hy := c.run_yields t st
  rw [h] at hy
  generalize (c.run t st).2 = st' at hy
  cases hy with
  | failed _ hs _ =>
      refine ⟨hs.records_eq, ?_⟩
      cases hs with
      | commandOnly => exact Or.inl rfl
      | unsupported => exact Or.inl rfl
      | declined hr _ _ => exact Or.inr ⟨_, hr, rfl⟩

/-! ## The keys that were answered -/

/-- The keys of the collections that gave a record, in order. -/
def answeredKeys (t : Transport) : List (Collection σ) → Audit.State σ → List String
  | [], _ => []
  | c :: cs, st =>
    match c.run t st with
    | (.ok _, st') => c.key :: answeredKeys t cs st'
    | (.error _, st') => answeredKeys t cs st'

theorem answeredKeys_append (t : Transport) (cs ds : List (Collection σ)) (st : Audit.State σ) :
    answeredKeys t (cs ++ ds) st = answeredKeys t cs st ++ answeredKeys t ds (after t cs st) := by
  induction cs generalizing st with
  | nil => rfl
  | cons c cs ih =>
      rw [List.cons_append, answeredKeys, answeredKeys, after_cons]
      rcases c.run t st with ⟨_ | _, st'⟩ <;> simp [ih]

/-- The store has one record for each of the keys, and no other. -/
structure Holds (keys : List String) (s : Store) : Prop where
  nodup : (Keyed.keys s.records).Nodup
  mem_iff : ∀ key, key ∈ Keyed.keys s.records ↔ key ∈ keys

theorem Holds.size_eq {keys : List String} {s : Store} (h : Holds keys s) :
    s.size = keys.toFinset.card := by
  have hset : keys.toFinset = (Keyed.keys s.records).toFinset := by
    ext key
    simp only [List.mem_toFinset, h.mem_iff]
  rw [hset, List.toFinset_card_of_nodup h.nodup, Store.size, Keyed.keys, List.length_map]

/-- A new record adds its key. -/
theorem Holds.keep {keys : List String} {s : Store} {key : String} (r : Record) (h : Holds keys s)
    (hk : Keyed.get? s.records key = none) : Holds (keys ++ [key]) (s.keep key r) := by
  have hperm : (Keyed.keys (s.keep key r).records).Perm (key :: Keyed.keys s.records) :=
    (Keyed.insert_perm r hk).map Prod.fst
  refine ⟨?_, fun k => ?_⟩
  · rw [hperm.nodup_iff, List.nodup_cons]
    exact ⟨(Keyed.get?_eq_none_iff _ _).mp hk, h.nodup⟩
  · rw [hperm.mem_iff, List.mem_cons, h.mem_iff, List.mem_append, List.mem_singleton, or_comm]

/-- One collection adds its key to those that are answered, if it gives a record. -/
theorem run_holds {keys : List String} (c : Collection σ) (st : Audit.State σ)
    (h : Holds keys st.store) :
    Holds (keys ++ answeredKeys t [c] st) (c.run t st).2.store := by
  have hy := c.run_yields t st
  rcases hrun : c.run t st with ⟨answer, st'⟩
  simp only [answeredKeys, hrun]
  rw [hrun] at hy
  cases hy with
  | kept hk =>
      -- the key is among the answered ones already
      have hmem : c.key ∈ keys := by
        rw [← h.mem_iff]
        by_contra hc
        rw [(Keyed.get?_eq_none_iff _ _).mpr hc] at hk
        cases hk
      refine ⟨h.nodup, fun k => ?_⟩
      rw [h.mem_iff, List.mem_append, List.mem_singleton]
      exact ⟨Or.inl, fun hk => hk.elim id (fun he => he ▸ hmem)⟩
  | telemetry hk _ _ _ => exact Holds.keep (s := st.store.request _) _ ⟨h.nodup, h.mem_iff⟩ hk
  | found hk hs _ =>
      refine Holds.keep _ ⟨?_, fun k => ?_⟩ (by rw [hs.records_eq, hk])
      · rw [hs.records_eq]; exact h.nodup
      · rw [hs.records_eq]; exact h.mem_iff k
  | failed _ hs _ =>
      rw [List.append_nil]
      refine ⟨?_, fun k => ?_⟩
      · rw [hs.records_eq]; exact h.nodup
      · rw [hs.records_eq]; exact h.mem_iff k

/-- After any sequence of collections on a fresh store there is one record for each key that was
answered. -/
theorem after_holds (t : Transport) (cs : List (Collection σ)) (w : World σ) :
    Holds (answeredKeys t cs (Audit.fresh w)) (after t cs (Audit.fresh w)).store := by
  induction cs using List.reverseRecOn with
  | nil => exact ⟨List.nodup_nil, fun _ => Iff.rfl⟩
  | append_singleton cs c ih =>
      rw [answeredKeys_append, after_append]
      exact run_holds c _ ih

/-! ## The whole run -/

/-- **Memoization.** Take any sequence `before` of collections on a fresh store, and one more, `c`.
If `c` gives a record, every later collection of the same key, whatever it would ask and do, gives
that record and changes nothing at all, so neither the transport nor the lab is asked. If `c` fails,
the records stay as they were and at most its own path is downgraded. And the number of records is
the number of different keys that were answered. -/
theorem answers_memoized (t : Transport) (w : World σ) (before : List (Collection σ))
    (c : Collection σ) :
    let start := Audit.fresh w
    let st := after t before start
    (∀ r, (c.run t st).1 = .ok r →
      ∀ (between : List (Collection σ)) (d : Collection σ), d.key = c.key →
        d.run t (after t (before ++ c :: between) start)
          = (.ok r, after t (before ++ c :: between) start)) ∧
    (∀ f, (c.run t st).1 = .error f →
      (c.run t st).2.store.records = st.store.records ∧
        ((c.run t st).2.store.unsupported = st.store.unsupported ∨
          ∃ q, c.telemetry = some q ∧
            (c.run t st).2.store.unsupported = st.store.unsupported ++ [q.path])) ∧
    st.store.size = (answeredKeys t before start).toFinset.card := by
  intro start st
  refine ⟨?_, fun f hf => run_of_error hf, (after_holds t before w).size_eq⟩
  intro r hr between d hd
  have hstate : after t (before ++ c :: between) start = after t between (c.run t st).2 := by
    rw [after_append, after_cons]
  -- the record was kept when `c` gave it, and the collections in between only add to the store
  have hkept : Keyed.get? (after t between (c.run t st).2).store.records c.key = some r :=
    (after_grows t between _).records (get?_run_of_ok hr)
  rw [hstate]
  exact run_of_kept (hd ▸ hkept)

end FabricAudit.Collection
