import FabricAudit.Drift.Detection
import FabricAudit.Proofs.Evidence.Kind
import FabricAudit.Proofs.Evidence.Memo

set_option autoImplicit false

/-! # What a detection rests on

Records stay once they are kept, so all that the steps of a detection have seen can be read off the
store that it leaves: for every node of the fabric the records of its interfaces and sessions, of
which its fingerprint is taken (`snapshot_of_ok`), and its running configuration, which is held
against the desired one (`configFindings_of_ok`). Neither loop can skip a node.
-/

namespace FabricAudit

variable {σ : Type}

/-- A later state has at least the evidence of an earlier one. -/
def Audit.State.Grows (st st' : Audit.State σ) : Prop := st.store.Grows st'.store

namespace Audit.State.Grows

theorem refl (st : Audit.State σ) : st.Grows st := Store.Grows.refl st.store

theorem trans {st₁ st₂ st₃ : Audit.State σ} (h : st₁.Grows st₂) (h' : st₂.Grows st₃) :
    st₁.Grows st₃ := Store.Grows.trans h h'

end Audit.State.Grows

namespace EvidenceKind

variable {lab : Lab σ} {t : Transport} {node : String}

theorem collect_grows (kind : EvidenceKind) :
    Audit.Keeps Audit.State.Grows (kind.collect lab t node) := by
  intro st
  rw [kind.collect_eq_run]
  exact (kind.collection lab node).run_grows t st

/-- The record that a collector gives is kept. -/
theorem get?_of_collect (kind : EvidenceKind) {st st' : Audit.State σ} {r : Record}
    (h : kind.collect lab t node st = (.ok r, st')) :
    Keyed.get? st'.store.records (kind.key node) = some r := by
  rw [kind.collect_eq_run] at h
  have hr : ((kind.collection lab node).run t st).1 = .ok r := congrArg Prod.fst h
  have hkept := Collection.get?_run_of_ok hr
  rw [h] at hkept
  exact hkept

/-- A collector that fails keeps no record. -/
theorem get?_of_collect_error (kind : EvidenceKind) {st st' : Audit.State σ} {f : Fault}
    (h : kind.collect lab t node st = (.error f, st')) :
    Keyed.get? st'.store.records (kind.key node) = none := by
  rw [kind.collect_eq_run] at h
  have hyields := (kind.collection lab node).run_yields t st
  rw [h] at hyields
  cases hyields with
  | failed habsent hturns _ =>
      rw [hturns.records_eq]
      exact habsent

end EvidenceKind

/-! ## Configurations -/

/-- The running configuration of a node is known, it can be one, and it has the digest of the
desired configuration, which is empty if there is none. -/
def Lab.RunsDesired (lab : Lab σ) (store : Store) (node : String) : Prop :=
  ∃ (record : Record) (desired : Option String),
    Keyed.get? store.records (EvidenceKind.runningConfig.key node) = some record ∧
    lab.desired node = .ok desired ∧
    record.rc? = some 0 ∧
    isConfig (record.textAt "raw") = true ∧
    Sha256.digest (record.textAt "raw") = Sha256.digest (desired.getD "")

namespace ConfigFinding

/-- Nothing is found about a node exactly if its command succeeded and gave a configuration with the
digest of the desired one. -/
theorem between?_eq_none_iff {node desired running stderr : String} {rc : Int} :
    between? node desired running rc stderr = none ↔
      rc = 0 ∧ isConfig running = true ∧ Sha256.digest running = Sha256.digest desired := by
  rw [between?]
  by_cases hbad : (rc ≠ 0 || !isConfig running) = true
  · rw [if_pos hbad]
    refine ⟨nofun, fun ⟨hrc, hconfig, _⟩ => ?_⟩
    simp [hrc, hconfig] at hbad
  · rw [if_neg hbad]
    obtain ⟨hrc, hconfig⟩ : rc = 0 ∧ isConfig running = true := by simpa using hbad
    by_cases hhash : Sha256.digest desired = Sha256.digest running
    · simp [hrc, hconfig, hhash]
    · simp [hhash, Ne.symm hhash]

theorem node_of_between? {node desired running stderr : String} {rc : Int} {f : ConfigFinding}
    (h : between? node desired running rc stderr = some f) : f.node = node := by
  rw [between?] at h
  split at h
  · cases h; rfl
  · dsimp only at h
    split at h
    · cases h
    · cases h; rfl

end ConfigFinding

namespace Drift

/-- What is found about the configuration of a node is what its record in the store says. -/
def Finds (lab : Lab σ) (store : Store) (node : String) (found : Option ConfigFinding) : Prop :=
  ∃ (record : Record) (desired : Option String),
    Keyed.get? store.records (EvidenceKind.runningConfig.key node) = some record ∧
    lab.desired node = .ok desired ∧
    found = ConfigFinding.between? node (desired.getD "") (record.textAt "raw")
      (record.rc?.getD 1) (record.textAt "err")

section

variable {lab : Lab σ} {store : Store} {node : String} {found : Option ConfigFinding}

theorem Finds.node_eq {f : ConfigFinding} (h : Finds lab store node (some f)) : f.node = node := by
  obtain ⟨record, desired, -, -, hfound⟩ := h
  exact ConfigFinding.node_of_between? hfound.symm

/-- What is found about a node is found in a record. -/
theorem Finds.exists_record (h : Finds lab store node found) :
    ∃ record, Keyed.get? store.records (EvidenceKind.runningConfig.key node) = some record := by
  obtain ⟨record, desired, hrecord, -⟩ := h
  exact ⟨record, hrecord⟩

theorem Finds.mono {store' : Store} (h : Finds lab store node found)
    (hgrows : store.Grows store') : Finds lab store' node found := by
  obtain ⟨record, desired, hrecord, hdesired, hfound⟩ := h
  exact ⟨record, desired, hgrows.records hrecord, hdesired, hfound⟩

/-- Nothing is found about a node exactly if it runs its desired configuration. -/
theorem Finds.eq_none_iff (h : Finds lab store node found) :
    found = none ↔ lab.RunsDesired store node := by
  obtain ⟨record, desired, hrecord, hdesired, rfl⟩ := h
  have hrc : record.rc?.getD 1 = 0 ↔ record.rc? = some 0 := by
    cases record.rc? <;> simp
  rw [ConfigFinding.between?_eq_none_iff, hrc]
  constructor
  · rintro ⟨hzero, hconfig, hhash⟩
    exact ⟨record, desired, hrecord, hdesired, hzero, hconfig, hhash⟩
  · rintro ⟨record', desired', hrecord', hdesired', hzero, hconfig, hhash⟩
    rw [hrecord] at hrecord'
    rw [hdesired] at hdesired'
    cases hrecord'
    cases hdesired'
    exact ⟨hzero, hconfig, hhash⟩

end

variable {s : Subject σ} {st st' : Audit.State σ}

theorem configFinding?_grows (s : Subject σ) (node : String) :
    Audit.Keeps Audit.State.Grows (configFinding? s node) := by
  refine .bind .trans (fun st => .refl st) fun desired => ?_
  refine .bind .trans ?_ fun running => Audit.keeps_pure .refl _
  exact EvidenceKind.runningConfig.collect_grows (t := s.transport)

/-- What is found about a node can be read off the store. -/
theorem configFinding?_of_ok {node : String} {found : Option ConfigFinding}
    (h : configFinding? s node st = (.ok found, st')) : Finds s.lab st'.store node found := by
  obtain ⟨text, st₁, htext, h⟩ := Audit.bind_eq_ok_iff.mp h
  obtain ⟨running, st₂, hrunning, h⟩ := Audit.bind_eq_ok_iff.mp h
  rw [Audit.pure_apply] at h
  cases h
  have hkept := EvidenceKind.get?_of_collect (t := s.transport) .runningConfig hrunning
  -- a node without a desired configuration is held against the empty text
  have hdesired : s.lab.desiredText node = .ok text := congrArg Prod.fst htext
  rw [Lab.desiredText] at hdesired
  split at hdesired
  · next desired hd =>
      cases hdesired
      exact ⟨running, desired, hkept, hd, rfl⟩
  · cases hdesired

/-- What is found about the configurations of the fabric, node by node. -/
theorem configFindings_of_ok {findings : List ConfigFinding}
    (h : configFindings s st = (.ok findings, st')) :
    st.Grows st' ∧ ∃ found, findings = found.filterMap id ∧
      List.Forall₂ (Finds s.lab st'.store) s.lab.fabricNodes found := by
  obtain ⟨found, st₁, hfound, h⟩ := Audit.bind_eq_ok_iff.mp h
  rw [Audit.pure_apply] at h
  cases h
  obtain ⟨hgrows, hall⟩ := Audit.forall₂_of_mapM Audit.State.Grows.refl .trans
    (configFinding?_grows s) s.lab.fabricNodes hfound
  refine ⟨hgrows, found, rfl, hall.imp ?_⟩
  rintro node f ⟨st₂, st₃, hf, hlater⟩
  exact (configFinding?_of_ok hf).mono hlater

/-- There are findings about exactly the nodes of the fabric that do not run their desired
configurations. -/
theorem exists_finding_iff {lab : Lab σ} {store : Store} {nodes : List String}
    {found : List (Option ConfigFinding)} (h : List.Forall₂ (Finds lab store) nodes found)
    (node : String) :
    (∃ f ∈ found.filterMap id, f.node = node) ↔ node ∈ nodes ∧ ¬ lab.RunsDesired store node := by
  -- node by node, with what is found about each
  induction h with
  | nil => simp
  | @cons n x nodes found hx _ ih =>
      cases x with
      | none =>
          have hruns : lab.RunsDesired store n := hx.eq_none_iff.mp rfl
          rw [List.filterMap_cons_none rfl, ih, List.mem_cons]
          exact ⟨fun ⟨hmem, hnot⟩ => ⟨.inr hmem, hnot⟩,
            fun ⟨hmem, hnot⟩ => ⟨hmem.resolve_left fun he => hnot (he ▸ hruns), hnot⟩⟩
      | some f =>
          have hnot : ¬ lab.RunsDesired store n := fun hruns => by
            cases hx.eq_none_iff.mpr hruns
          have hcons : (some f :: found).filterMap id = f :: found.filterMap id := rfl
          rw [hcons, List.exists_mem_cons_iff, ih, List.mem_cons, hx.node_eq]
          constructor
          · rintro (rfl | ⟨hmem, hnode⟩)
            · exact ⟨.inl rfl, hnot⟩
            · exact ⟨.inr hmem, hnode⟩
          · rintro ⟨rfl | hmem, hnode⟩
            · exact .inl rfl
            · exact .inr ⟨hmem, hnode⟩

/-! ## Fingerprints -/

theorem bundle_eq (interfaces sessions : Document) :
    bundle interfaces sessions = .object [("bgp", sessions), ("interfaces", interfaces)] := by
  simp only [bundle, Document.ofPairs, Keyed.ofList, List.foldl_cons, List.foldl_nil, Keyed.insert,
    String.reduceEq, String.reduceLT, if_true, if_false]

theorem fingerprintOf_eq (interfaces sessions : Document) :
    fingerprintOf interfaces sessions =
      ⟨Sha256.digest (Document.object [("bgp", sessions), ("interfaces", interfaces)]).compact,
        2⟩ := by
  rw [fingerprintOf, bundle_eq]
  rfl

/-- A node has the fingerprint of the interfaces and sessions that the store has of it: the digest
of the compact text of both, and their number. -/
def HasFingerprint (store : Store) (node : String) (f : Fingerprint) : Prop :=
  ∃ interfaces sessions : Record,
    Keyed.get? store.records (EvidenceKind.interfaces.key node) = some interfaces ∧
    Keyed.get? store.records (EvidenceKind.sessions.key node) = some sessions ∧
    f.hash = Sha256.digest
      (Document.object [("bgp", sessions.data), ("interfaces", interfaces.data)]).compact ∧
    f.keyCount = 2

theorem HasFingerprint.mono {store store' : Store} {node : String} {f : Fingerprint}
    (h : HasFingerprint store node f) (hgrows : store.Grows store') :
    HasFingerprint store' node f := by
  obtain ⟨interfaces, sessions, hi, hs, hf⟩ := h
  exact ⟨interfaces, sessions, hgrows.records hi, hgrows.records hs, hf⟩

theorem fingerprint_grows (s : Subject σ) (node : String) :
    Audit.Keeps Audit.State.Grows (fingerprint s node) := by
  refine .bind .trans (EvidenceKind.interfaces.collect_grows) fun interfaces => ?_
  refine .bind .trans (EvidenceKind.sessions.collect_grows) fun sessions => ?_
  exact Audit.keeps_pure .refl _

/-- The fingerprint of a node can be read off the store. -/
theorem fingerprint_of_ok {node : String} {m : String × Fingerprint}
    (h : fingerprint s node st = (.ok m, st')) :
    m.1 = node ∧ HasFingerprint st'.store node m.2 := by
  obtain ⟨interfaces, st₁, hi, h⟩ := Audit.bind_eq_ok_iff.mp h
  obtain ⟨sessions, st₂, hs, h⟩ := Audit.bind_eq_ok_iff.mp h
  rw [Audit.pure_apply] at h
  cases h
  -- the record of the interfaces is still there after the sessions have been collected
  have hgrows : st₁.Grows st' := (EvidenceKind.sessions.collect_grows).of_eq hs
  rw [fingerprintOf_eq]
  refine ⟨rfl, interfaces, sessions, ?_, ?_, rfl, rfl⟩
  · exact hgrows.records (EvidenceKind.get?_of_collect .interfaces hi)
  · exact EvidenceKind.get?_of_collect .sessions hs

end Drift

end FabricAudit
