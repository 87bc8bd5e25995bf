import Mathlib.Tactic
import FabricAudit.Proofs.Evidence.Collection

set_option autoImplicit false

/-! # Downgraded telemetry paths

A transport that declines a path is not asked for it again, whichever node is meant. Three facts
make that exact, and `Store.Accounted` is the invariant that carries them through every sequence of
collections: the downgraded paths are the paths of the declined requests, in order; none is among
them twice; and every request either led to a record from telemetry or downgraded a path.
-/

namespace FabricAudit

/-! ## Declined requests -/

namespace Transport

/-- The transport declines a request, given the requests before. -/
def Declines (t : Transport) (before : List Request) (r : Request) : Prop :=
  ∃ reason, t before r = .declined reason

/-- The paths of the requests that the transport declined, among those that followed `before`. -/
def declinedPaths (t : Transport) (before : List Request) : List Request → List String
  | [] => []
  | r :: rest =>
    match t before r with
    | .payload _ => declinedPaths t (before ++ [r]) rest
    | .declined _ => r.path :: declinedPaths t (before ++ [r]) rest

/-- One more request adds its path, if it is declined, and nothing else. -/
theorem declinedPaths_append_singleton (t : Transport) (before rs : List Request) (r : Request) :
    t.declinedPaths before (rs ++ [r])
      = t.declinedPaths before rs
        ++ (match t (before ++ rs) r with
            | .payload _ => []
            | .declined _ => [r.path]) := by
  induction rs generalizing before with
  | nil =>
      simp only [declinedPaths, List.nil_append, List.append_nil]
  | cons q rs ih =>
      rw [List.cons_append, declinedPaths, declinedPaths, ih (before ++ [q]), List.append_assoc,
        List.singleton_append]
      cases t before q <;> rfl

end Transport

/-! ## The invariant -/

/-- How many records are from telemetry. -/
def Store.telemetryCount (s : Store) : Nat := s.records.countP fun m => m.2.source == .telemetry

/-- **The account of telemetry**: what was declined is downgraded, in order and once each, and every
request is accounted for by a record from telemetry or by a downgraded path. -/
structure Store.Accounted (t : Transport) (s : Store) : Prop where
  unsupported_eq : s.unsupported = t.declinedPaths [] s.requests
  nodup : s.unsupported.Nodup
  balance : s.requests.length = s.telemetryCount + s.unsupported.length

namespace Store

theorem telemetryCount_keep {key : String} {s : Store} (r : Record)
    (h : Keyed.get? s.records key = none) :
    (s.keep key r).telemetryCount
      = s.telemetryCount + (if r.source = .telemetry then 1 else 0) := by
  rw [telemetryCount, keep_records, (Keyed.insert_perm r h).countP_eq, List.countP_cons]
  simp [telemetryCount]

variable {t : Transport} {s : Store}

theorem Accounted.empty (t : Transport) : Store.empty.Accounted t := ⟨rfl, List.nodup_nil, rfl⟩

/-- An answered request is accounted for by the record that is made of it. -/
theorem Accounted.keep_telemetry {key : String} {r : Request} {d : Document} (h : s.Accounted t)
    (hk : Keyed.get? s.records key = none) (ht : t s.requests r = .payload d) :
    ((s.request r).keep key ⟨.telemetry, d⟩).Accounted t := by
  refine ⟨?_, h.nodup, ?_⟩
  · rw [keep_unsupported, keep_requests, request_unsupported, request_requests,
      Transport.declinedPaths_append_singleton, List.nil_append, ht, List.append_nil]
    exact h.unsupported_eq
  · have hcount : ((s.request r).keep key ⟨.telemetry, d⟩).telemetryCount
        = s.telemetryCount + 1 := telemetryCount_keep (s := s.request r) _ hk
    have hb := h.balance
    rw [hcount, keep_requests, keep_unsupported, request_requests, request_unsupported,
      List.length_append, List.length_singleton]
    omega

/-- A declined request is accounted for by its path, which was not downgraded before. -/
theorem Accounted.decline {r : Request} {reason : String} (h : s.Accounted t)
    (hp : r.path ∉ s.unsupported) (ht : t s.requests r = .declined reason) :
    (s.decline r).Accounted t := by
  refine ⟨?_, ?_, ?_⟩
  · rw [decline_unsupported, decline_requests, Transport.declinedPaths_append_singleton,
      List.nil_append, ht, h.unsupported_eq]
  · rw [decline_unsupported]
    exact h.nodup.append (List.nodup_singleton _)
      (List.disjoint_singleton.mpr hp)
  · have hb := h.balance
    have hcount : (s.decline r).telemetryCount = s.telemetryCount := rfl
    rw [hcount, decline_requests, decline_unsupported, List.length_append, List.length_append,
      List.length_singleton, List.length_singleton]
    omega

/-- A record from the command line changes nothing in the account. -/
theorem Accounted.keep_cli {key : String} {d : Document} (h : s.Accounted t)
    (hk : Keyed.get? s.records key = none) : (s.keep key ⟨.cli, d⟩).Accounted t := by
  refine ⟨h.unsupported_eq, h.nodup, ?_⟩
  have hcount : (s.keep key ⟨.cli, d⟩).telemetryCount = s.telemetryCount :=
    telemetryCount_keep _ hk
  rw [hcount]
  exact h.balance

end Store

namespace Collection

variable {σ : Type} {t : Transport} {c : Collection σ} {st : Audit.State σ}

theorem TurnsTo.accounted {s s' : Store} (hs : TurnsTo t c s s') (h : s.Accounted t) :
    s'.Accounted t := by
  cases hs with
  | commandOnly => exact h
  | unsupported => exact h
  | declined _ hp ht => exact h.decline hp ht

/-- **One collection keeps the account.** -/
theorem run_accounted (c : Collection σ) (st : Audit.State σ) (h : st.store.Accounted t) :
    (c.run t st).2.store.Accounted t := by
  have hy := c.run_yields t st
  generalize (c.run t st).1 = answer, (c.run t st).2 = st' at hy
  cases hy with
  | kept => exact h
  | telemetry hk _ _ ht => exact h.keep_telemetry hk ht
  | found hk hs _ => exact (hs.accounted h).keep_cli (by rw [hs.records_eq, hk])
  | failed _ hs _ => exact hs.accounted h

/-- So does a sequence of them. -/
theorem after_accounted (cs : List (Collection σ)) (w : World σ) :
    (after t cs (Audit.fresh w)).store.Accounted t :=
  after_induction (P := fun st => st.store.Accounted t) (fun c st h => c.run_accounted st h) cs
    (.empty t)

/-! ## Who downgrades a path -/

/-- Carried out in the state `st`, the collection makes its request `r`, and no other. -/
def Asks (t : Transport) (c : Collection σ) (st : Audit.State σ) (r : Request) : Prop :=
  c.telemetry = some r ∧ (c.run t st).2.store.requests = st.store.requests ++ [r]

/-- No request, no new downgrade. -/
private theorem not_asked {t : Transport} {c : Collection σ} {rs : List Request} {path : String} :
    ¬ ∃ r, (c.telemetry = some r ∧ rs = rs ++ [r]) ∧ t.Declines rs r ∧ r.path = path := by
  rintro ⟨r, ⟨_, h⟩, _⟩
  simp at h

theorem TurnsTo.mem_unsupported {s s' : Store} (hs : TurnsTo t c s s') (path : String) :
    path ∈ s'.unsupported ↔
      path ∈ s.unsupported ∨
        ∃ r, (c.telemetry = some r ∧ s'.requests = s.requests ++ [r]) ∧
          t.Declines s.requests r ∧ r.path = path := by
  cases hs with
  | commandOnly => simp only [not_asked, or_false]
  | unsupported => simp only [not_asked, or_false]
  | @declined r reason hr _ ht =>
      rw [Store.decline_unsupported, Store.decline_requests, List.mem_append, List.mem_singleton]
      refine or_congr_right ⟨?_, ?_⟩
      · rintro rfl
        exact ⟨r, ⟨hr, rfl⟩, ⟨reason, ht⟩, rfl⟩
      · rintro ⟨q, ⟨_, hq⟩, _, rfl⟩
        rw [List.append_cancel_left_eq, List.singleton_inj] at hq
        rw [hq]

/-- **A path is downgraded by a collection that asks for it and is declined**, and by nothing
else. -/
theorem mem_unsupported_run (t : Transport) (c : Collection σ) (st : Audit.State σ)
    (path : String) :
    path ∈ (c.run t st).2.store.unsupported ↔
      path ∈ st.store.unsupported ∨
        ∃ r, c.Asks t st r ∧ t.Declines st.store.requests r ∧ r.path = path := by
  unfold Asks
  have hy := c.run_yields t st
  generalize (c.run t st).1 = answer, (c.run t st).2 = st' at hy
  cases hy with
  | kept => simp only [not_asked, or_false]
  | @telemetry r d _ _ _ ht =>
      -- the request was answered, so it is not one of those that were declined
      have hno : ¬ ∃ q, (c.telemetry = some q ∧
          st.store.requests ++ [r] = st.store.requests ++ [q]) ∧
          t.Declines st.store.requests q ∧ q.path = path := by
        rintro ⟨q, ⟨_, hq⟩, ⟨reason, hdecl⟩, _⟩
        rw [List.append_cancel_left_eq, List.singleton_inj] at hq
        subst hq
        rw [ht] at hdecl
        cases hdecl
      simp only [Store.keep_unsupported, Store.keep_requests, Store.request_unsupported,
        Store.request_requests, hno, or_false]
  | found _ hs _ => exact hs.mem_unsupported path
  | failed _ hs _ => exact hs.mem_unsupported path

/-- The downgraded paths of a run are those that one of its collections asked for and was
declined. -/
theorem mem_unsupported_after (cs : List (Collection σ)) (w : World σ) (path : String) :
    path ∈ (after t cs (Audit.fresh w)).store.unsupported ↔
      ∃ before c later r, cs = before ++ c :: later ∧
        c.Asks t (after t before (Audit.fresh w)) r ∧
        t.Declines (after t before (Audit.fresh w)).store.requests r ∧ r.path = path := by
  -- from the end of the run: the last collection, or one of those before it, downgraded the path
  induction cs using List.reverseRecOn with
  | nil =>
      refine ⟨fun h => absurd h List.not_mem_nil, ?_⟩
      rintro ⟨before, c, later, r, h, _⟩
      simp at h
  | append_singleton cs c ih =>
      rw [after_append, after_cons, after_nil, mem_unsupported_run, ih]
      constructor
      · rintro (⟨before, c', later, r, rfl, h⟩ | ⟨r, h⟩)
        · exact ⟨before, c', later ++ [c], r, by simp, h⟩
        · exact ⟨cs, c, [], r, rfl, h⟩
      · rintro ⟨before, c', later, r, hcs, h⟩
        rcases List.eq_nil_or_concat later with rfl | ⟨later, d, rfl⟩
        · obtain ⟨rfl, hc⟩ := List.append_inj' hcs rfl
          obtain rfl := List.singleton_inj.mp hc
          exact Or.inr ⟨r, h⟩
        · have hsplit : cs ++ [c] = (before ++ c' :: later) ++ [d] := by
            rw [hcs]
            simp
          obtain ⟨rfl, _⟩ := List.append_inj' hsplit rfl
          exact Or.inl ⟨before, c', later, r, rfl, h⟩

/-! ## The account of a run -/

/-- **Downgrade accounting.** After any sequence of collections on a fresh store, whatever the
transport answers: the downgraded paths are exactly those that a collection asked for and was
declined; they stay downgraded, and no later request is for one of them; so no path is declined
twice; and there are as many requests as records from telemetry and downgraded paths together. -/
theorem requests_accounted (t : Transport) (w : World σ) (cs : List (Collection σ)) :
    let start := Audit.fresh w
    let s := (after t cs start).store
    (∀ path, path ∈ s.unsupported ↔
      ∃ before c later r, cs = before ++ c :: later ∧ c.Asks t (after t before start) r ∧
        t.Declines (after t before start).store.requests r ∧ r.path = path) ∧
    (∀ path ∈ s.unsupported, ∀ later,
      let s' := (after t (cs ++ later) start).store
      path ∈ s'.unsupported ∧
        ∃ more, s'.requests = s.requests ++ more ∧ ∀ r ∈ more, r.path ≠ path) ∧
    (t.declinedPaths [] s.requests).Nodup ∧
    s.unsupported.Nodup ∧
    s.requests.length = s.telemetryCount + s.unsupported.length := by
  intro start s
  have haccount : s.Accounted t := after_accounted cs w
  refine ⟨mem_unsupported_after cs w, ?_, ?_, haccount.nodup, haccount.balance⟩
  · intro path hpath later s'
    have hgrows : s.Grows s' := by
      show s.Grows (after t (cs ++ later) start).store
      rw [after_append]
      exact after_grows t later _
    obtain ⟨more, hmore, hnew⟩ := hgrows.requests
    refine ⟨hgrows.unsupported hpath, more, hmore, ?_⟩
    intro r hr he
    exact hnew r hr (he ▸ hpath)
  · rw [← haccount.unsupported_eq]
    exact haccount.nodup

end Collection

end FabricAudit
