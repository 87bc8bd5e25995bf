import FabricAudit.Proofs.Evidence.Commands

set_option autoImplicit false

/-! # Where records come from

Between two states of an audit, every record of a kind of evidence on a node was kept under its key
before, or the node was asked for it in between: by a telemetry request that was answered, or by the
commands of the collector (`Origin`). No record comes from another node or of another kind of
evidence, because no other collector has its key. `Traces` says so of all records at once; it holds
of every collector (`EvidenceKind.collect_traces`), and it is transitive.
-/

namespace FabricAudit

variable {σ : Type}

/-- Where a record of a kind of evidence on a node comes from: `calls` and `requests` are what the
lab and the transport were asked since the state `st`. -/
inductive Origin (lab : Lab σ) (t : Transport) (st : Audit.State σ) (calls : List Call)
    (requests : List Request) (kind : EvidenceKind) (node : String) : Record → Prop where
  /-- It was there before. -/
  | kept {r : Record} (h : Keyed.get? st.store.records (kind.key node) = some r) :
      Origin lab t st calls requests kind node r
  /-- It answers a request for telemetry of the node. -/
  | telemetry {path : String} {d : Document} (before after : List Request)
      (hrequest : kind.telemetry node = some ⟨node, path⟩)
      (hrequests : requests = before ++ ⟨node, path⟩ :: after)
      (hanswer : t (st.store.requests ++ before) ⟨node, path⟩ = .payload d) :
      Origin lab t st calls requests kind node ⟨.telemetry, d⟩
  /-- The commands of the collector found it on the node. -/
  | commands {d : Document} (before after : List Call)
      (hcalls : calls = before ++ kind.commands.map (Call.mk .switch node) ++ after)
      (hfound : (kind.fallback lab node
        ⟨lab.after before st.world.state, st.world.calls ++ before⟩).1 = .ok d) :
      Origin lab t st calls requests kind node ⟨.cli, d⟩

namespace Origin

variable {lab : Lab σ} {t : Transport} {st st' : Audit.State σ} {calls calls' : List Call}
  {requests requests' : List Request} {kind : EvidenceKind} {node : String} {r : Record}

/-- What is asked later does not matter. -/
theorem extend (h : Origin lab t st calls requests kind node r) (calls' : List Call)
    (requests' : List Request) :
    Origin lab t st (calls ++ calls') (requests ++ requests') kind node r := by
  cases h with
  | kept h => exact .kept h
  | telemetry before after hrequest hrequests hanswer =>
      refine .telemetry before (after ++ requests') hrequest ?_ hanswer
      rw [hrequests, List.append_assoc, List.cons_append]
  | commands before after hcalls hfound =>
      refine .commands before (after ++ calls') ?_ hfound
      rw [hcalls, List.append_assoc, List.append_assoc]

/-- Where a record comes from, seen from an earlier state. -/
theorem after (h : Origin lab t st' calls' requests' kind node r)
    (hadvances : Audit.Advances lab st st' calls)
    (hrequests : st'.store.requests = st.store.requests ++ requests)
    (hkept : Keyed.get? st'.store.records (kind.key node) = some r →
      Origin lab t st (calls ++ calls') (requests ++ requests') kind node r) :
    Origin lab t st (calls ++ calls') (requests ++ requests') kind node r := by
  cases h with
  | kept h => exact hkept h
  | telemetry before after hrequest hmore hanswer =>
      rw [hrequests, List.append_assoc] at hanswer
      refine .telemetry (requests ++ before) after hrequest ?_ hanswer
      rw [hmore, List.append_assoc]
  | commands before after hcalls hfound =>
      rw [hadvances.state_eq, hadvances.calls_eq, ← Lab.after_append, List.append_assoc] at hfound
      refine .commands (calls ++ before) after ?_ hfound
      rw [hcalls, List.append_assoc, List.append_assoc, List.append_assoc]

end Origin

/-- Between two states all records of collectors have an origin. -/
def Traces (lab : Lab σ) (t : Transport) (st st' : Audit.State σ) : Prop :=
  ∃ calls requests, Audit.Advances lab st st' calls ∧
    st'.store.requests = st.store.requests ++ requests ∧
    ∀ (kind : EvidenceKind) (node : String) (r : Record),
      Keyed.get? st'.store.records (kind.key node) = some r →
        Origin lab t st calls requests kind node r

namespace Traces

variable {lab : Lab σ} {t : Transport} {st st' st'' : Audit.State σ}

theorem refl (lab : Lab σ) (t : Transport) (st : Audit.State σ) : Traces lab t st st :=
  ⟨[], [], .refl lab st, (List.append_nil _).symm, fun _ _ _ h => .kept h⟩

theorem trans (h : Traces lab t st st') (h' : Traces lab t st' st'') : Traces lab t st st'' := by
  obtain ⟨calls, requests, hadvances, hrequests, horigin⟩ := h
  obtain ⟨calls', requests', hadvances', hrequests', horigin'⟩ := h'
  refine ⟨calls ++ calls', requests ++ requests', hadvances.trans hadvances', ?_, ?_⟩
  · rw [hrequests', hrequests, List.append_assoc]
  · intro kind node r hr
    exact (horigin' kind node r hr).after hadvances hrequests fun hkept =>
      (horigin kind node r hkept).extend calls' requests'

end Traces

namespace EvidenceKind

variable {lab : Lab σ} {t : Transport}

/-- A new record is the only one whose origin has to be told. -/
theorem origin_of_keep {st : Audit.State σ} {s : Store} {calls : List Call}
    {requests : List Request} {kind : EvidenceKind} {node : String} {new : Record}
    (hrecords : s.records = st.store.records)
    (hnew : Origin lab t st calls requests kind node new) (kind' : EvidenceKind) (node' : String)
    (r : Record) (hr : Keyed.get? (s.keep (kind.key node) new).records (kind'.key node') = some r) :
    Origin lab t st calls requests kind' node' r := by
  rw [Store.keep_records, Keyed.get?_insert, hrecords] at hr
  split at hr
  · next hkey =>
      obtain ⟨rfl, rfl⟩ := key_inj hkey
      cases hr
      exact hnew
  · exact .kept hr

theorem telemetry_node {kind : EvidenceKind} {node : String} {r : Request}
    (h : kind.telemetry node = some r) : r.node = node := by
  cases kind <;> cases h <;> rfl

/-- What the commands of a collector do to the lab: after success they have all been given. -/
theorem advances_of_fallback {kind : EvidenceKind} {node : String} {st : Audit.State σ}
    {answer : Except Fault Document} {world : World σ} {store : Store}
    (hgrows : st.store.Grows store) (h : kind.fallback lab node st.world = (answer, world)) :
    ∃ calls, Audit.Advances lab st ⟨world, store⟩ calls ∧
      ∀ d, answer = .ok d → calls = kind.commands.map (Call.mk .switch node) := by
  have hend : Audit.Ending lab (fun _ _ => True) (fun _ _ => True) st answer
      ⟨world, st.store⟩ := (kind.fallback_ends node).of_eq (Audit.ofWork_of_eq h)
  obtain ⟨calls, hadvances⟩ : ∃ calls, Audit.Advances lab st ⟨world, st.store⟩ calls := by
    cases hend with
    | answered h _ _ => exact ⟨_, h⟩
    | refused h _ => exact ⟨_, h⟩
    | failed h _ => exact ⟨_, h⟩
  refine ⟨calls, ⟨hadvances.calls_eq, hadvances.state_eq, hgrows⟩, ?_⟩
  rintro d rfl
  obtain ⟨given, hgiven, -, hall⟩ := kind.fallback_issues lab node st.world
  rw [h] at hgiven hall
  rw [← hall d rfl]
  exact List.append_cancel_left (hadvances.calls_eq.symm.trans hgiven)

/-- **A collector** keeps no record but one that it has got from its node. -/
theorem collect_traces (lab : Lab σ) (t : Transport) (kind : EvidenceKind) (node : String) :
    Audit.Keeps (Traces lab t) (kind.collect lab t node) := by
  intro st
  have hyields := (kind.collection lab node).run_yields t st
  have hgrows := (kind.collection lab node).run_grows t st
  rw [← kind.collect_eq_run] at hyields hgrows
  generalize (kind.collect lab t node st).1 = answer, (kind.collect lab t node st).2 = st'
    at hyields hgrows
  cases hyields with
  | kept => exact .refl lab t st
  | @telemetry r d _ hrequest _ hanswer =>
      change kind.telemetry node = some r at hrequest
      obtain rfl := telemetry_node hrequest
      refine ⟨[], [r], ⟨(List.append_nil _).symm, rfl, hgrows⟩, rfl, ?_⟩
      refine origin_of_keep rfl (.telemetry [] [] hrequest rfl ?_)
      rwa [List.append_nil]
  -- the record comes from commands of this very run
  | @found s d w _ hturns hfound =>
      change kind.fallback lab node st.world = _ at hfound
      obtain ⟨requests, hrequests, -⟩ := hturns.grows.requests
      obtain ⟨calls, hadvances, hcalls⟩ := advances_of_fallback hgrows hfound
      refine ⟨calls, requests, hadvances, hrequests, origin_of_keep hturns.records_eq ?_⟩
      refine .commands [] [] ?_ ?_
      · rw [hcalls d rfl, List.nil_append, List.append_nil]
      · rw [List.append_nil, Lab.after, hfound]
  | @failed s f w _ hturns hfailed =>
      change kind.fallback lab node st.world = _ at hfailed
      obtain ⟨requests, hrequests, -⟩ := hturns.grows.requests
      obtain ⟨calls, hadvances, -⟩ := advances_of_fallback hgrows hfailed
      refine ⟨calls, requests, hadvances, hrequests, fun kind' node' r hr => .kept ?_⟩
      rwa [← hturns.records_eq]

end EvidenceKind

end FabricAudit
