import FabricAudit.Proofs.Document.Redraft
import FabricAudit.Proofs.Intent.Lint
import FabricAudit.Proofs.Verdict.Phases
import FabricAudit.Proofs.Verdict.Wording

set_option autoImplicit false

/-! # Runs of intents without findings

Lint reads the selector of a check by itself, and the check reads it among its parameters. Both see
the same nodes (`Check.namedNodes_of_scope`): a check whose selector does not read crashes, so lint
may leave it alone. What a selector does not name it filters from the inventory, so a check none of
whose named nodes is unknown is about known nodes only (`Selector.contains_of_mem_resolve`).
`Verdict.lint_exact` says when there are no findings, and what this means for every run.
-/

namespace FabricAudit

/-! ## Nodes of a selector -/

namespace Selector

/-- The nodes that a selector names, by itself or in a list. -/
def named (s : Selector) : List String := s.node.toList ++ s.nodes.getD []

/-- **A selector leads out of the inventory only by a node that it names.** -/
theorem contains_of_mem_resolve {s : Selector} {i : Inventory}
    (h : ∀ node ∈ s.named, i.contains node) : ∀ node ∈ s.resolve i, i.contains node := by
  intro node hnode
  unfold resolve at hnode
  split at hnode
  next name hname =>
    rw [List.mem_singleton.mp hnode]
    exact h name (by simp [named, hname])
  next names _ hnames =>
    exact h node (by simp [named, hnames, hnode])
  next =>
    obtain ⟨entry, hentry, rfl⟩ := List.mem_map.mp hnode
    have hkey : entry.1 ∈ Keyed.keys i.nodes := List.mem_map_of_mem (List.mem_filter.mp hentry).1
    rw [Inventory.contains, Option.isSome_iff_ne_none, ne_eq, Keyed.get?_eq_none_iff, not_not]
    exact hkey

end Selector

/-! ## The selector of a check -/

namespace Check

variable {c : Check}

/-- **Lint and check read one selector.** If the parameters of a check read as a record with a
selector, and the check is about the nodes of this selector, then the nodes that lint finds named are
those that the selector names. -/
theorem namedNodes_of_params {α : Type} {title : String} {fields : List FieldCheck}
    {build : Given → Except ReadFault α} {selector : α → Selector} {s : Selector}
    (halone : ∀ f ∈ fields, f.aliases = [])
    (hfield : (Reader.fieldNamed fields "selector").isSome)
    (hbuild : ∀ g p, build g = .ok p → g.take Selector.field = .ok (selector p))
    (h : (c.readParams (Reader.record title fields build)).map (fun p => Scope.nodes (selector p))
      = .ok (.nodes s)) : Intent.namedNodes c = s.named := by
  obtain ⟨p, hp, hs⟩ := Except.map_eq_ok_iff.mp h
  cases hs
  obtain ⟨g, hg, hlookup⟩ := Reader.document_record_eq_ok halone hp
  have hgiven : g.fields.lookup Selector.field.name
      = (Keyed.get? c.params "selector").map Document.toDraft := hlookup "selector" hfield
  have htake := hbuild g p hg
  rw [Given.take, hgiven] at htake
  rw [Intent.namedNodes]
  cases hd : Keyed.get? c.params "selector" with
  | none =>
      -- without a selector the check is about all nodes, and names none
      rw [hd] at htake
      have hall : selector p = Selector.all := (Except.ok.inj htake).symm
      rw [hall]
      rfl
  | some d =>
      rw [hd] at htake
      have hread : Selector.reader.document d = .ok (selector p) := htake
      rw [Option.map_some, hread]
      rfl

/-- So it is for every check whose results are about the nodes of a selector. -/
theorem namedNodes_of_scope {s : Selector} (h : c.scope = .ok (.nodes s)) :
    Intent.namedNodes c = s.named := by
  rw [scope] at h
  cases hkind : c.kind with
  | configContains =>
      rw [hkind] at h
      refine namedNodes_of_params (by decide) rfl (fun g p hg => ?_) h
      simp only [Except.bind_eq_ok_iff] at hg
      obtain ⟨s, hs, _, -, hg⟩ := hg
      cases hg
      exact hs
  | interfacesUp =>
      rw [hkind] at h
      refine namedNodes_of_params (by decide) rfl (fun g p hg => ?_) h
      simp only [Except.bind_eq_ok_iff] at hg
      obtain ⟨s, hs, _, -, _, -, _, -, _, -, _, -, hg⟩ := hg
      cases hg
      exact hs
  | bgpEstablished =>
      rw [hkind] at h
      refine namedNodes_of_params (by decide) rfl (fun g p hg => ?_) h
      simp only [Except.bind_eq_ok_iff] at hg
      obtain ⟨s, hs, _, -, _, -, hg⟩ := hg
      cases hg
      exact hs
  | evpnRoutesPresent =>
      rw [hkind] at h
      refine namedNodes_of_params (by decide) rfl (fun g p hg => ?_) h
      simp only [Except.bind_eq_ok_iff] at hg
      obtain ⟨s, hs, _, -, _, -, hg⟩ := hg
      cases hg
      exact hs
  | evpnSessionsUp =>
      rw [hkind] at h
      refine namedNodes_of_params (by decide) rfl (fun g p hg => ?_) h
      simp only [Except.bind_eq_ok_iff] at hg
      obtain ⟨s, hs, hg⟩ := hg
      cases hg
      exact hs
  | unsupported name =>
      rw [hkind] at h
      cases h
  | _ =>
      -- the other kinds have no selector
      rw [hkind] at h
      obtain ⟨_, -, hs⟩ := Except.map_eq_ok_iff.mp h
      cases hs

end Check

/-! ## Results about nodes -/

/-- Whether checks of a kind give their results node by node. -/
def CheckKind.isPerNode : CheckKind → Bool
  | .configContains | .interfacesUp | .bgpEstablished | .evpnRoutesPresent | .evpnSessionsUp => true
  | .pingTargets | .neighborAbsent | .intentDistinct | .unsupported _ => false

/-- A check whose results come node by node is about the nodes of a selector. -/
theorem Check.scope_eq_nodes {c : Check} (hkind : c.kind.isPerNode) {scope : Scope}
    (h : c.scope = .ok scope) : ∃ s, scope = .nodes s := by
  rw [Check.scope] at h
  cases hc : c.kind <;> rw [hc] at h hkind <;> try cases hkind
  all_goals
    obtain ⟨p, -, rfl⟩ := Except.map_eq_ok_iff.mp h
    exact ⟨p.selector, rfl⟩

namespace Verdict

variable {σ : Type}

/-- **A result about a node is about a known node**, if the check names no other. -/
theorem crashed_or_contains_of_mem {s : Subject σ} {c : Check} (hkind : c.kind.isPerNode)
    (hnamed : ∀ node ∈ Intent.namedNodes c, s.intent.inventory.contains node)
    {st : Audit.State σ} {r : Result} (hr : r ∈ (runCheck s c st).1) :
    (∃ f : Fault, r = Result.crashed c f.message) ∨
      ∃ node, r.name = c.name ++ "::" ++ node ∧ s.intent.inventory.contains node := by
  refine (crashed_or_answers_of_mem s c st hr).imp_right ?_
  rintro ⟨scope, hscope, name, hname, hanswer⟩
  obtain ⟨selector, rfl⟩ := Check.scope_eq_nodes hkind hscope
  obtain ⟨node, hnode, rfl⟩ := List.mem_map.mp hname
  rw [Check.namedNodes_of_scope hscope] at hnamed
  exact ⟨node, hanswer.name_eq, Selector.contains_of_mem_resolve hnamed node hnode⟩

/-- Every result of a run is one of a check of its phases. -/
theorem exists_check_of_mem_run {s : Subject σ} {mode : RunMode} {st : Audit.State σ} {r : Result}
    (hr : r ∈ (run s mode st).1.results) :
    ∃ c ∈ s.intent.checks, mode.includes c.phase ∧ ∃ st', r ∈ (runCheck s c st').1 := by
  have hresults : (run s mode st).1.results = ((s.intent.checks.filter
      fun c => mode.includes c.phase).mapM (runCheck s) st).1.flatten := rfl
  rw [hresults] at hr
  obtain ⟨rs, hrs, hr⟩ := List.mem_flatten.mp hr
  obtain ⟨c, hc, st', rfl⟩ := exists_of_mem_mapM hrs
  obtain ⟨hc, hmode⟩ := List.mem_filter.mp hc
  exact ⟨c, hc, hmode, st', hr⟩

/-- **Lint finds all there is to find, and what it does not find does not happen.**

There are no findings exactly if every kind is known, no two checks have one name, every node that a
selector names is in the inventory, and there are nodes if there are checks. A selector that does not
read names nothing. Every check of an unknown kind is found once, in order, and a name is found once
less than it is used.

If there are no findings, then in every run, on every lab, a result is one of a declared check of the
phases of the run; it never says of a declared kind that it is not known; and if its check gives
results node by node, it says that the check crashed or is about a node of the inventory. -/
theorem lint_exact (s : Subject σ) :
    (s.intent.lint = [] ↔
      (∀ c ∈ s.intent.checks, c.kind.isSupported) ∧
      (s.intent.checks.map Check.name).Nodup ∧
      (∀ c ∈ s.intent.checks, ∀ d selector, Keyed.get? c.params "selector" = some d →
        Selector.reader.document d = .ok selector →
        ∀ node, selector.node = some node ∨ node ∈ selector.nodes.getD [] →
          s.intent.inventory.contains node) ∧
      (s.intent.inventory.nodes ≠ [] ∨ s.intent.checks = [])) ∧
    (s.intent.lint.filter fun w => w.code = "W001")
      = (s.intent.checks.filter fun c => !c.kind.isSupported).map
          (fun c => .unsupportedKind c.name c.kind.name) ∧
    (s.intent.lint.filter fun w => w.code = "W002").length
      + (s.intent.checks.map Check.name).toFinset.card = s.intent.checks.length ∧
    (s.intent.lint = [] → ∀ mode st, ∀ r ∈ (run s mode st).1.results,
      ∃ c ∈ s.intent.checks, mode.includes c.phase ∧ (∃ st', r ∈ (runCheck s c st').1) ∧
        (∀ c' ∈ s.intent.checks, r.message ≠ "Unsupported check kind: " ++ c'.kind.name) ∧
        (c.kind.isPerNode → (∃ f : Fault, r = Result.crashed c f.message) ∨
          ∃ node, r.name = c.name ++ "::" ++ node ∧ s.intent.inventory.contains node)) := by
  refine ⟨?_, ?_, ?_, fun hlint mode st r hr => ?_⟩
  · have hnodes : ∀ c : Check, (∀ node ∈ Intent.namedNodes c, s.intent.inventory.contains node) ↔
        ∀ d selector, Keyed.get? c.params "selector" = some d →
          Selector.reader.document d = .ok selector →
          ∀ node, selector.node = some node ∨ node ∈ selector.nodes.getD [] →
            s.intent.inventory.contains node := by
      intro c
      constructor
      · intro h d selector hd hselector node hnode
        exact h node (Intent.mem_namedNodes_iff.mpr ⟨d, selector, hd, hselector, hnode⟩)
      · intro h node hnode
        obtain ⟨d, selector, hd, hselector, hnode⟩ := Intent.mem_namedNodes_iff.mp hnode
        exact h d selector hd hselector node hnode
    rw [Intent.lint_eq_nil_iff]
    simp only [hnodes]
  · rw [Intent.filter_lint, Intent.flatMap_kindWarning]
    simp
  · rw [Intent.filter_lint]
    -- a finding for every check but the first of each name
    have hcount := Intent.nameWarnings_count [] s.intent.checks
    simpa using hcount
  · obtain ⟨hkinds, -, hnodes, -⟩ := (Intent.lint_eq_nil_iff _).mp hlint
    obtain ⟨c, hc, hmode, st', hr⟩ := exists_check_of_mem_run hr
    refine ⟨c, hc, hmode, ⟨st', hr⟩, fun c' hc' => ?_, fun hkind => ?_⟩
    · exact (runCheck_isWorded s (hkinds c hc) hr).message_ne_unsupported (hkinds c' hc')
    · exact crashed_or_contains_of_mem hkind (hnodes c hc) hr

/-- A fabric of one switch. One of its checks names the switch, the other one selects it by its
role. -/
def tidyFabric : Subject Unit :=
  ⟨⟨"lab", .standard, ⟨[("leaf1", ⟨["leaf"], []⟩)]⟩, [],
      [⟨"config", .intent, .configContains, .error,
          [("required", .list [.text "hostname leaf1"]),
            ("selector", .object [("node", .text "leaf1")])]⟩,
        ⟨"interfaces", .underlay, .interfacesUp, .warn,
          [("selector", .object [("role", .text "leaf")])]⟩], .object []⟩,
    (Script.empty.addNode "leaf1" "ceos").lab (FileTree.empty []) "/lab", .disabled .standard⟩

theorem lint_exact_tidyFabric :
    tidyFabric.intent.lint = [] ∧
      (run tidyFabric .all (Audit.fresh ⟨(), []⟩)).1.results.map (fun r => (r.name, r.status))
        = [("config::leaf1", .fail), ("interfaces::leaf1", .fail)] ∧
      ∀ r ∈ (run tidyFabric .all (Audit.fresh ⟨(), []⟩)).1.results,
        ∃ c ∈ tidyFabric.intent.checks,
          r.message ≠ "Unsupported check kind: " ++ c.kind.name ∧
          ((∃ f : Fault, r = Result.crashed c f.message) ∨
            ∃ node, r.name = c.name ++ "::" ++ node ∧ tidyFabric.intent.inventory.contains node) := by
  have hlint : tidyFabric.intent.lint = [] := by decide +kernel
  have hkinds : ∀ c ∈ tidyFabric.intent.checks, c.kind.isPerNode := by decide
  obtain ⟨-, -, -, hrun⟩ := lint_exact tidyFabric
  refine ⟨hlint, by decide +kernel, fun r hr => ?_⟩
  obtain ⟨c, hc, -, -, hmessage, hnode⟩ := hrun hlint .all _ r hr
  exact ⟨c, hc, hmessage c hc, hnode (hkinds c hc)⟩

end Verdict

end FabricAudit
