import FabricAudit.Lab.Scripted
import FabricAudit.Proofs.Evidence.Kind

set_option autoImplicit false

/-! # Faithful stores

When the lab is steady and the telemetry of a path does not depend on who asks for it or when, every
kind of evidence on a node has one true record: what is collected on a store without any. A store is
faithful if it keeps no other records, and has downgraded no path that the transport would answer.
Collecting keeps a store faithful and gives the true record, with whatever the store already has.
-/

namespace FabricAudit

/-! ## Transports that answer by path -/

/-- The payload of an answer, unless the request was declined. -/
def TelemetryAnswer.payload? : TelemetryAnswer → Option Document
  | .payload d => some d
  | .declined _ => none

/-- The telemetry that a request gets is a matter of its path alone. -/
def Transport.IsByPath (t : Transport) : Prop :=
  ∃ payload : String → Option Document, ∀ before r, (t before r).payload? = payload r.path

theorem Transport.static_isByPath (payloads : Members) : (Transport.static payloads).IsByPath := by
  refine ⟨Keyed.get? payloads, fun before r => ?_⟩
  rw [Transport.static]
  rcases Keyed.get? payloads r.path with _ | d <;> rfl

theorem Transport.disabled_isByPath (d : TelemetryDefaults) : (Transport.disabled d).IsByPath :=
  ⟨fun _ => none, fun _ _ => rfl⟩

theorem Script.lab_isSteady (s : Script) (files : FileTree) (directory : String) :
    (s.lab files directory).IsSteady :=
  ⟨s.answer, fun _ _ => rfl⟩

/-! ## True records -/

/-- The true record of a kind of evidence on a node: the telemetry of its path, or else what its
commands find. -/
def EvidenceKind.truth (payload : String → Option Document)
    (found : EvidenceKind → String → Except Fault Document) (kind : EvidenceKind) (node : String) :
    Except Fault Record :=
  match (kind.telemetry node).bind fun r => payload r.path with
  | some d => .ok ⟨.telemetry, d⟩
  | none => (found kind node).map (Record.mk .cli)

/-- **Only true records are kept, and only paths without telemetry are downgraded.** -/
structure Store.Faithful (payload : String → Option Document)
    (found : EvidenceKind → String → Except Fault Document) (s : Store) : Prop where
  records : ∀ (kind : EvidenceKind) (node : String) {r : Record},
    Keyed.get? s.records (kind.key node) = some r → kind.truth payload found node = .ok r
  unsupported : ∀ path ∈ s.unsupported, payload path = none

variable {payload : String → Option Document}
  {found : EvidenceKind → String → Except Fault Document}

namespace Store.Faithful

theorem empty (payload : String → Option Document)
    (found : EvidenceKind → String → Except Fault Document) :
    Store.empty.Faithful payload found :=
  ⟨fun _ _ _ h => (Option.some_ne_none _ h.symm).elim, fun _ h => absurd h List.not_mem_nil⟩

/-- A true record may be kept. No other kind of evidence and no other node has its key. -/
theorem keep {s : Store} {kind : EvidenceKind} {node : String} {r : Record}
    (h : s.Faithful payload found) (hr : kind.truth payload found node = .ok r) :
    (s.keep (kind.key node) r).Faithful payload found := by
  refine ⟨fun kind' node' r' hk => ?_, h.unsupported⟩
  rw [Store.keep_records, Keyed.get?_insert] at hk
  -- only this kind of evidence on this node has the key
  by_cases hkey : kind.key node = kind'.key node'
  · obtain ⟨rfl, rfl⟩ := EvidenceKind.key_inj hkey
    rw [if_pos rfl] at hk
    rw [hr, Option.some.inj hk]
  · rw [if_neg hkey] at hk
    exact h.records kind' node' hk

theorem request {s : Store} (h : s.Faithful payload found) (r : Request) :
    (s.request r).Faithful payload found := ⟨h.records, h.unsupported⟩

/-- A path without telemetry may be downgraded. -/
theorem decline {s : Store} {r : Request} (h : s.Faithful payload found)
    (hp : payload r.path = none) : (s.decline r).Faithful payload found := by
  refine ⟨h.records, fun path hpath => ?_⟩
  rcases List.mem_append.mp hpath with hpath | hpath
  · exact h.unsupported path hpath
  · rw [List.mem_singleton.mp hpath, hp]

end Store.Faithful

/-! ## Collecting -/

section

variable {σ : Type} {lab : Lab σ} {t : Transport}

/-- From a faithful store, a collector turns to its commands only if there is no telemetry. -/
theorem EvidenceKind.truth_of_turnsTo {kind : EvidenceKind} {node : String} {s s' : Store}
    (ht : ∀ before r, (t before r).payload? = payload r.path) (h : s.Faithful payload found)
    (hs : (kind.collection lab node).TurnsTo t s s') :
    s'.Faithful payload found ∧
      kind.truth payload found node = (found kind node).map (Record.mk .cli) := by
  cases hs with
  | commandOnly hr =>
      change kind.telemetry node = none at hr
      exact ⟨h, by rw [truth, hr]; rfl⟩
  | unsupported hr hp =>
      -- what a faithful store has downgraded has no telemetry
      change kind.telemetry node = some _ at hr
      refine ⟨h, ?_⟩
      rw [truth, hr, Option.bind_some, h.unsupported _ hp]
  | @declined r reason hr hp hdecl =>
      change kind.telemetry node = some _ at hr
      have hnone : payload r.path = none := by
        rw [← ht s.requests r, hdecl]
        rfl
      refine ⟨h.decline hnone, ?_⟩
      rw [truth, hr, Option.bind_some, hnone]

/-- **A collector gives the true record**, from every faithful store, and leaves it faithful. -/
theorem EvidenceKind.collect_faithful (ht : ∀ before r, (t before r).payload? = payload r.path)
    (hfound : ∀ kind node w, (fallback lab node kind w).1 = found kind node)
    (kind : EvidenceKind) (node : String) {st : Audit.State σ}
    (h : st.store.Faithful payload found) :
    (kind.collect lab t node st).1 = kind.truth payload found node ∧
      (kind.collect lab t node st).2.store.Faithful payload found := by
  rw [kind.collect_eq_run]
  have hy := (kind.collection lab node).run_yields t st
  generalize ((kind.collection lab node).run t st).1 = answer,
    ((kind.collection lab node).run t st).2 = st' at hy ⊢
  cases hy with
  | kept hk => exact ⟨(h.records kind node hk).symm, h⟩
  | @telemetry r d _ hr _ hpay =>
      have htruth : kind.truth payload found node = .ok ⟨.telemetry, d⟩ := by
        change kind.telemetry node = some r at hr
        have hsome : payload r.path = some d := by
          rw [← ht st.store.requests r, hpay]
          rfl
        rw [truth, hr, Option.bind_some, hsome]
      exact ⟨htruth.symm, (h.request r).keep htruth⟩
  -- whatever was declined before, the store that the commands come to is faithful still
  | @found s d w _ hs hf =>
      obtain ⟨hfaithful, htruth⟩ := truth_of_turnsTo ht h hs
      have hd : found kind node = .ok d := by
        rw [← hfound kind node st.world]
        exact congrArg Prod.fst hf
      rw [hd] at htruth
      exact ⟨htruth.symm, hfaithful.keep htruth⟩
  | @failed s f w _ hs hf =>
      obtain ⟨hfaithful, htruth⟩ := truth_of_turnsTo ht h hs
      have hd : found kind node = .error f := by
        rw [← hfound kind node st.world]
        exact congrArg Prod.fst hf
      rw [hd] at htruth
      exact ⟨htruth.symm, hfaithful⟩

end

end FabricAudit
