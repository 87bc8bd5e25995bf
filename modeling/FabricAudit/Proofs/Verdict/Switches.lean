import FabricAudit.Lab.Scripted
import FabricAudit.Proofs.Drift.Evidence
import FabricAudit.Proofs.Evidence.Origin
import FabricAudit.Proofs.Verdict.Frame

set_option autoImplicit false

/-! # Verdicts on switches

The four kinds of check that look at switches go about it in the same way: for every selected node
they collect one kind of evidence, read the part of the record that they are after, and give a
verdict on it (`judge`). Records stay once they are kept, so a check need not be followed through
its commands and requests to tell what it says. Its results can be read off the store that it
leaves: if this store has evidence that reads on every selected node, there is one result for each
of them, in order, and it is the verdict on the record that the store has of it
(`JudgesBy.forall₂`).
-/

namespace FabricAudit

/-- The evidence that a store has on a node is what the command line told of it. -/
def Store.Told (store : Store) (kind : EvidenceKind) (node : String) (data : Document) : Prop :=
  Keyed.get? store.records (kind.key node) = some ⟨.cli, data⟩

namespace Verdict

variable {σ α : Type}

/-! ## One node -/

/-- What a check of switches does for a node. -/
def judge (s : Subject σ) (kind : EvidenceKind) (read : Record → Except ReadFault α)
    (verdict : String → Record → α → Result) (node : String) : Audit σ Result := do
  let record ← kind.collect s.lab s.transport node
  let a ← Audit.ofReading (read record)
  pure (verdict node record a)

/-- A result is the verdict on the record that a store has of a node. -/
def IsVerdict (kind : EvidenceKind) (read : Record → Except ReadFault α)
    (verdict : String → Record → α → Result) (store : Store) (node : String) (r : Result) : Prop :=
  ∃ record a, Keyed.get? store.records (kind.key node) = some record ∧ read record = .ok a ∧
    r = verdict node record a

section

variable {s : Subject σ} {kind : EvidenceKind} {read : Record → Except ReadFault α}
  {verdict : String → Record → α → Result} {node : String} {st st' : Audit.State σ}

theorem IsVerdict.mono {store store' : Store} {r : Result}
    (h : IsVerdict kind read verdict store node r) (hgrows : store.Grows store') :
    IsVerdict kind read verdict store' node r := by
  obtain ⟨record, a, hkept, hread, hr⟩ := h
  exact ⟨record, a, hgrows.records hkept, hread, hr⟩

theorem IsVerdict.name_eq {store : Store} {r : Result} {name : String → String}
    (h : IsVerdict kind read verdict store node r)
    (hnamed : ∀ node record a, (verdict node record a).name = name node) : r.name = name node := by
  obtain ⟨record, a, -, -, rfl⟩ := h
  exact hnamed node record a

theorem ofReading_apply (e : Except ReadFault α) (st : Audit.State σ) :
    (Audit.ofReading e : Audit σ α) st = (e.mapError .json, st) := rfl

theorem judge_grows (s : Subject σ) (kind : EvidenceKind) (read : Record → Except ReadFault α)
    (verdict : String → Record → α → Result) (node : String) :
    Audit.Keeps Audit.State.Grows (judge s kind read verdict node) := by
  refine .bind .trans kind.collect_grows fun record => ?_
  exact .bind .trans (fun st => .refl st) fun a => Audit.keeps_pure .refl _

/-- What is said of a node is the verdict on its record. -/
theorem isVerdict_of_judge {r : Result} (h : judge s kind read verdict node st = (.ok r, st')) :
    IsVerdict kind read verdict st'.store node r := by
  obtain ⟨record, st₁, hrecord, h⟩ := Audit.bind_eq_ok_iff.mp h
  obtain ⟨a, st₂, ha, h⟩ := Audit.bind_eq_ok_iff.mp h
  rw [Audit.pure_apply] at h
  cases h
  rw [ofReading_apply] at ha
  obtain ⟨hread, rfl⟩ := Prod.mk.inj ha
  exact ⟨record, a, kind.get?_of_collect hrecord, Except.mapError_eq_ok_iff.mp hread, rfl⟩

/-- If nothing is said of a node, there is no evidence on it that reads. -/
theorem not_readable_of_judge (hread : ∀ r, kind.readPart r = (read r).map fun _ => ()) {f : Fault}
    (h : judge s kind read verdict node st = (.error f, st')) :
    ¬ Readable kind node st'.store := by
  rintro ⟨record, hkept, hreads⟩
  rw [judge] at h
  rcases hcollect : kind.collect s.lab s.transport node st with ⟨f' | found, st₁⟩
  · rw [Audit.bind_error hcollect] at h
    cases h
    rw [kind.get?_of_collect_error hcollect] at hkept
    cases hkept
  · rw [Audit.bind_ok hcollect] at h
    rcases ha : read found with f' | a
    · -- the record that was collected is the one that is kept, and it does not read
      rw [Audit.bind_error (by rw [ofReading_apply, ha]; rfl)] at h
      cases h
      obtain rfl : found = record :=
        Option.some.inj ((kind.get?_of_collect hcollect).symm.trans hkept)
      exact hreads f' (by rw [hread, ha]; rfl)
    · rw [Audit.bind_ok (by rw [ofReading_apply, ha]; rfl)] at h
      cases h

/-! ## All nodes -/

/-- **A verdict for every node**, if afterwards there is evidence that reads on every one of
them. -/
theorem mapM_judge {nodes : List String} {answer : Except Fault (List Result)}
    (hread : ∀ r, kind.readPart r = (read r).map fun _ => ())
    (hrun : nodes.mapM (judge s kind read verdict) st = (answer, st'))
    (hall : ∀ node ∈ nodes, Readable kind node st'.store) :
    ∃ rs, answer = .ok rs ∧ List.Forall₂ (IsVerdict kind read verdict st'.store) nodes rs := by
  cases answer with
  | error f =>
      obtain ⟨node, hnode, st₁, hfails⟩ := Audit.exists_of_mapM_eq_error hrun
      exact absurd (hall node hnode) (not_readable_of_judge hread hfails)
  | ok rs =>
      obtain ⟨-, hverdicts⟩ := Audit.forall₂_of_mapM Audit.State.Grows.refl .trans
        (judge_grows s kind read verdict) nodes hrun
      refine ⟨rs, rfl, hverdicts.imp ?_⟩
      rintro node r ⟨st₁, st₂, hjudge, hlater⟩
      exact (isVerdict_of_judge hjudge).mono hlater

end

/-! ## Checks -/

/-- A store has evidence that reads on every switch that a check selects. -/
def Informs (store : Store) (c : Check) (i : Inventory) : Prop :=
  ∀ kind, c.kind.evidence? = some kind → ∀ node ∈ c.nodes i, Readable kind node store

/-- A check does nothing but judge the nodes that it selects. -/
structure JudgesBy (s : Subject σ) (c : Check) (kind : EvidenceKind)
    (read : Record → Except ReadFault α) (verdict : String → Record → α → Result) : Prop where
  evidence : c.kind.evidence? = some kind
  readPart : ∀ r, kind.readPart r = (read r).map fun _ => ()
  named : ∀ node record a, (verdict node record a).name = c.name ++ "::" ++ node
  ofCheck_eq : ∀ st,
    ofCheck s c st = (c.nodes s.intent.inventory).mapM (judge s kind read verdict) st

variable {s : Subject σ} {c : Check} {st : Audit.State σ}

namespace JudgesBy

variable {kind : EvidenceKind} {read : Record → Except ReadFault α}
  {verdict : String → Record → α → Result}

/-- **Results are verdicts** on the records that the store has in the end, one for every node, if it
has evidence that reads on all of them. -/
theorem forall₂ (h : JudgesBy s c kind read verdict)
    (hall : Informs (runCheck s c st).2.store c s.intent.inventory) :
    List.Forall₂ (IsVerdict kind read verdict (runCheck s c st).2.store)
      (c.nodes s.intent.inventory) (runCheck s c st).1 := by
  have hreads := hall kind h.evidence
  rcases hrun : ofCheck s c st with ⟨answer, st'⟩
  have hstate : (runCheck s c st).2 = st' := by rw [runCheck_state, hrun]
  rw [hstate] at hreads ⊢
  obtain ⟨rs, rfl, hverdicts⟩ := mapM_judge h.readPart ((h.ofCheck_eq st).symm.trans hrun) hreads
  rw [runCheck_eq, hrun]
  exact hverdicts

end JudgesBy

/-- Parameters that read are read without a trace. -/
theorem params_bind {p : α} {reader : Reader α} {rest : α → Audit σ (List Result)}
    (hp : c.readParams reader = .ok p) (st : Audit.State σ) :
    (Audit.params c reader >>= rest) st = rest p st := by
  refine Audit.bind_ok ?_ rest
  rw [Audit.params, ofReading_apply, hp]
  rfl

/-- A check with parameters that read and select nodes judges these, if that is what it goes on to
do. -/
theorem JudgesBy.of_params {π : Type} {reader : Reader π} {p : π}
    {rest : π → Audit σ (List Result)} {selector : Selector} {kind : EvidenceKind}
    {read : Record → Except ReadFault α} {verdict : String → Record → α → Result}
    (hp : c.readParams reader = .ok p) (hscope : c.scope = .ok (.nodes selector))
    (hevidence : c.kind.evidence? = some kind)
    (hread : ∀ r, kind.readPart r = (read r).map fun _ => ())
    (hnamed : ∀ node record a, (verdict node record a).name = c.name ++ "::" ++ node)
    (hcheck : ofCheck s c = Audit.params c reader >>= rest)
    (hrest : ∀ st, rest p st
      = (selector.resolve s.intent.inventory).mapM (judge s kind read verdict) st) :
    JudgesBy s c kind read verdict := by
  refine ⟨hevidence, hread, hnamed, fun st => ?_⟩
  rw [hcheck, params_bind hp, hrest, Check.nodes, hscope]

/-- A check of interfaces judges by its rules. -/
theorem interfacesUp_judgesBy {p : InterfacesUp} {rules : InterfaceRules} (s : Subject σ)
    (hkind : c.kind = .interfacesUp) (hp : c.readParams InterfacesUp.reader = .ok p)
    (hrules : InterfaceRules.ofParams p = .ok rules) :
    JudgesBy s c .interfaces (fun r => r.readAt "parsed" [] (Reader.list Interface.reader))
      (interfacesResult c rules) := by
  have hscope : c.scope = .ok (.nodes p.selector) := by
    rw [Check.scope, hkind, hp]
    rfl
  have hcheck : ofCheck s c = interfacesUp s c := by rw [ofCheck, hkind]
  refine .of_params hp hscope (by rw [hkind]; rfl) (fun _ => rfl)
    (fun _ _ _ => Check.outcome_name ..) hcheck fun st => ?_
  -- the patterns are read before any node is looked at
  have hread : (Audit.ofExcept (InterfaceRules.ofParams p) : Audit σ _) st = (.ok rules, st) := by
    rw [hrules]
    rfl
  rw [Audit.bind_ok hread]
  rfl

/-- A check of BGP sessions judges by their numbers. -/
theorem bgpEstablished_judgesBy {p : BgpEstablished} (s : Subject σ)
    (hkind : c.kind = .bgpEstablished) (hp : c.readParams BgpEstablished.reader = .ok p) :
    JudgesBy s c .sessions (fun r => r.readAt "parsed" Sessions.none Sessions.reader)
      (fun node record found => sessionsResult c p node record.source found) := by
  have hscope : c.scope = .ok (.nodes p.selector) := by
    rw [Check.scope, hkind, hp]
    rfl
  have hcheck : ofCheck s c = bgpEstablished s c := by rw [ofCheck, hkind]
  exact .of_params hp hscope (by rw [hkind]; rfl) (fun _ => rfl)
    (fun _ _ _ => Check.outcome_name ..) hcheck fun _ => rfl

/-- So does a check of EVPN sessions. -/
theorem evpnSessionsUp_judgesBy {p : EvpnSessions} (s : Subject σ)
    (hkind : c.kind = .evpnSessionsUp) (hp : c.readParams EvpnSessions.reader = .ok p) :
    JudgesBy s c .evpnSummary
      (fun r => r.readAt "summary" EvpnSummary.none EvpnSummary.reader) (evpnResult c) := by
  have hscope : c.scope = .ok (.nodes p.selector) := by
    rw [Check.scope, hkind, hp]
    rfl
  have hcheck : ofCheck s c = evpnSessionsUp s c := by rw [ofCheck, hkind]
  exact .of_params hp hscope (by rw [hkind]; rfl) (fun _ => rfl)
    (fun _ _ _ => Check.outcome_name ..) hcheck fun _ => rfl

/-- A check of EVPN routes judges by the output as it is. -/
theorem evpnRoutesPresent_judgesBy {p : EvpnRoutes} (s : Subject σ)
    (hkind : c.kind = .evpnRoutesPresent) (hp : c.readParams EvpnRoutes.reader = .ok p) :
    JudgesBy s c .evpnRoutes (fun _ => .ok ())
      (fun node record _ => routesResult c p node record) := by
  have hscope : c.scope = .ok (.nodes p.selector) := by
    rw [Check.scope, hkind, hp]
    rfl
  have hcheck : ofCheck s c = evpnRoutesPresent s c := by rw [ofCheck, hkind]
  exact .of_params hp hscope (by rw [hkind]; rfl) (fun _ => rfl)
    (fun _ _ _ => Check.outcome_name ..) hcheck fun _ => rfl

/-! ## Single results -/

/-- The name of a result for a node tells the node, and it is not the name of the check. -/
theorem nodeName_inj {node node' : String}
    (h : c.name ++ "::" ++ node = c.name ++ "::" ++ node') : node = node' := by
  have hchars := congrArg String.toList h
  simp only [String.toList_append, List.append_cancel_left_eq] at hchars
  exact String.toList_inj.mp hchars

theorem nodeName_ne (c : Check) (node : String) : c.name ++ "::" ++ node ≠ c.name := by
  intro h
  have hlength := congrArg (fun name => name.toList.length) h
  simp [String.toList_append] at hlength

/-- There is a result for a node only if the check has not crashed. -/
theorem ofCheck_of_mem {r : Result} {node : String} (hr : r ∈ (runCheck s c st).1)
    (hname : r.name = c.name ++ "::" ++ node) :
    ∃ st', ofCheck s c st = (.ok (runCheck s c st).1, st') ∧ (runCheck s c st).2 = st' := by
  rw [runCheck_eq] at hr ⊢
  rcases hrun : ofCheck s c st with ⟨f | rs, st'⟩
  · rw [hrun, List.mem_singleton] at hr
    rw [hr] at hname
    exact absurd hname.symm (nodeName_ne c node)
  · exact ⟨st', rfl, rfl⟩

/-- So whatever a check begins with has succeeded. -/
theorem exists_of_mem {m : Audit σ α} {rest : α → Audit σ (List Result)}
    (hcheck : ofCheck s c = m >>= rest) {r : Result} {node : String}
    (hr : r ∈ (runCheck s c st).1) (hname : r.name = c.name ++ "::" ++ node) :
    ∃ a st₁ st', m st = (.ok a, st₁) ∧ rest a st₁ = (.ok (runCheck s c st).1, st') := by
  obtain ⟨st', hrun, -⟩ := ofCheck_of_mem hr hname
  rw [hcheck] at hrun
  obtain ⟨a, st₁, ha, hrest⟩ := Audit.bind_eq_ok_iff.mp hrun
  exact ⟨a, st₁, st', ha, hrest⟩

theorem exists_params_of_mem {reader : Reader α} {rest : α → Audit σ (List Result)}
    (hcheck : ofCheck s c = Audit.params c reader >>= rest) {r : Result} {node : String}
    (hr : r ∈ (runCheck s c st).1) (hname : r.name = c.name ++ "::" ++ node) :
    ∃ p, c.readParams reader = .ok p := by
  obtain ⟨p, st₁, st', hp, -⟩ := exists_of_mem hcheck hr hname
  exact ⟨p, Except.mapError_eq_ok_iff.mp (congrArg Prod.fst hp)⟩

/-- **Any result for a node is the verdict on its record**, whatever the evidence on other nodes. -/
theorem JudgesBy.of_mem {kind : EvidenceKind} {read : Record → Except ReadFault α}
    {verdict : String → Record → α → Result} (h : JudgesBy s c kind read verdict) {r : Result}
    {node : String} (hr : r ∈ (runCheck s c st).1) (hname : r.name = c.name ++ "::" ++ node) :
    IsVerdict kind read verdict (runCheck s c st).2.store node r := by
  obtain ⟨st', hrun, hstate⟩ := ofCheck_of_mem hr hname
  rw [h.ofCheck_eq] at hrun
  obtain ⟨-, hverdicts⟩ := Audit.forall₂_of_mapM Audit.State.Grows.refl .trans
    (judge_grows s kind read verdict) _ hrun
  obtain ⟨node', -, st₁, st₂, hjudge, hlater⟩ := hverdicts.exists_of_mem_right hr
  obtain ⟨record, a, hkept, hread, rfl⟩ := (isVerdict_of_judge hjudge).mono hlater
  obtain rfl : node' = node := nodeName_inj ((h.named node' record a).symm.trans hname)
  rw [hstate]
  exact ⟨record, a, hkept, hread, rfl⟩

/-! ## Telling by evaluation -/

/-- Whether there is evidence that reads can be told by evaluation. -/
theorem readable_iff {kind : EvidenceKind} {node : String} {store : Store} :
    Readable kind node store ↔
      (Keyed.get? store.records (kind.key node)).any (fun r => (kind.readPart r).isOk) = true := by
  rw [Readable, Option.any_eq_true]
  refine exists_congr fun r => and_congr_right fun _ => ?_
  cases kind.readPart r with
  | error f => simp [Except.isOk, Except.toBool]
  | ok _ => simp [Except.isOk, Except.toBool]

theorem informs_of_nodes {store : Store} {kind : EvidenceKind} {i : Inventory}
    {nodes : List String} (hkind : c.kind.evidence? = some kind) (hnodes : c.nodes i = nodes)
    (h : ∀ node ∈ nodes, Readable kind node store) : Informs store c i := by
  intro kind' hkind' node hnode
  obtain rfl : kind = kind' := Option.some.inj (hkind.symm.trans hkind')
  exact h node (hnodes ▸ hnode)

/-! ## Fabrics without telemetry -/

/-- **Without telemetry, new evidence is what the commands found.** -/
theorem exists_told {kind : EvidenceKind} {node : String} (hkind : c.kind.evidence? = some kind)
    (hdeclined : ∀ requests r d, s.transport requests r ≠ .payload d)
    (hnew : Keyed.get? st.store.records (kind.key node) = none)
    (h : Readable kind node (runCheck s c st).2.store) :
    ∃ world data, (kind.fallback s.lab node world).1 = .ok data ∧
      (runCheck s c st).2.store.Told kind node data := by
  have hhosts : c.hosts = [] :=
    Check.hosts_eq_nil_of_kind (fun hk => by rw [hk] at hkind; cases hkind)
      fun hk => by rw [hk] at hkind; cases hkind
  have htraces : Audit.Keeps (Traces s.lab s.transport) (ofCheck s c) :=
    ofCheck_keeps ⟨.refl _ _, .trans, fun kind node _ => kind.collect_traces _ _ node,
      by rw [hhosts]; nofun⟩
  obtain ⟨calls, requests, -, -, horigin⟩ := htraces st
  obtain ⟨record, hkept, -⟩ := h
  rw [runCheck_state] at hkept ⊢
  cases horigin kind node record hkept with
  | kept hbefore =>
      rw [hnew] at hbefore
      cases hbefore
  | telemetry _ _ _ _ hanswer => exact absurd hanswer (hdeclined _ _ _)
  | commands _ _ _ hfound => exact ⟨_, _, hfound, hkept⟩

/-- Commands that always find the same leave it in the store. -/
theorem told_of_fallback {kind : EvidenceKind} {node : String} {data : Document}
    (hkind : c.kind.evidence? = some kind)
    (hdeclined : ∀ requests r d, s.transport requests r ≠ .payload d)
    (hnew : Keyed.get? st.store.records (kind.key node) = none)
    (hfound : ∀ world, (kind.fallback s.lab node world).1 = .ok data)
    (h : Readable kind node (runCheck s c st).2.store) :
    (runCheck s c st).2.store.Told kind node data := by
  obtain ⟨world, data', hdata', htold⟩ := exists_told hkind hdeclined hnew h
  rw [hfound] at hdata'
  cases hdata'
  exact htold

/-- A fabric of one switch without telemetry, with its replies to commands. -/
def scriptedLeaf (replies : List (String × Reply)) : Subject Unit :=
  let script : Script := replies.foldr
    (fun reply script => script.addReply ⟨.switch, "leaf1", reply.1⟩ reply.2)
    (Script.empty.addNode "leaf1" "ceos")
  ⟨⟨"lab", .standard, .empty, [], [], .object []⟩, script.lab (FileTree.empty []) "/lab",
    .disabled .standard⟩

theorem scriptedLeaf_declines (replies : List (String × Reply)) (requests : List Request)
    (r : Request) (d : Document) : (scriptedLeaf replies).transport requests r ≠ .payload d := nofun

end Verdict

end FabricAudit
