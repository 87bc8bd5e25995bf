import FabricAudit.Proofs.Document.Refusal
import FabricAudit.Proofs.Verdict.Scope

set_option autoImplicit false

/-! # Checks are complete, or they crash

A check gives all the results that its parameters and the inventory call for, or else a single
failure that says that it crashed. For each kind of check, `…_ends` says how its loop over nodes or
probes ends: complete and unhindered, or at a hindrance or a command that could not be executed.
`runCheck_complete_or_crashed` puts them together.
-/

namespace FabricAudit.Verdict

open Audit (Ends IsStable)

variable {σ : Type} {s : Subject σ} {c : Check}

/-! ## What all kinds have in common -/

/-- Parameters are read first; if they do not read, that is a hindrance. -/
theorem withParams_ends {α : Type} {r : Reader α} {about : α → Scope}
    {rest : α → Audit σ (List Result)} (hscope : c.scope = (c.readParams r).map about)
    (hrest : ∀ p, c.readParams r = .ok p → c.scope = .ok (about p) →
      Ends s.lab (Complete s c) (Hindrance s c) (rest p)) :
    Ends s.lab (Complete s c) (Hindrance s c) (Audit.params c r >>= rest) := by
  have hparams : Ends s.lab (fun p _ => c.readParams r = .ok p) (Hindrance s c)
      (Audit.params c r) := by
    refine .ofReading (fun _ hp _ => hp) fun f hf _ => .params ?_
    rw [hscope, hf]
    rfl
  refine hparams.bind_of fun p hp => hrest p hp ?_
  rw [hscope, hp]
  rfl

/-- A check with a scope can be hindered by its patterns, by a desired configuration and by the
evidence on a node. -/
theorem not_hindrance {scope : Scope} {store : Store} (hscope : c.scope = .ok scope)
    (hpatterns : ∀ text ∈ c.patterns, ∀ f, Pattern.ofText text ≠ .error f)
    (hdesired : c.kind = .configContains → ∀ node ∈ c.nodes s.intent.inventory, ∀ f,
      s.lab.desired node ≠ .error f)
    (hevidence : ∀ kind, c.kind.evidence? = some kind → ∀ node ∈ c.nodes s.intent.inventory,
      ∀ r f, Keyed.get? store.records (kind.key node) = some r → kind.readPart r ≠ .error f) :
    ∀ f, ¬ Hindrance s c f store := by
  intro f h
  cases h with
  | params hf => rw [hscope] at hf; cases hf
  | pattern hmem hf => exact hpatterns _ hmem _ hf
  | desired hkind hmem hf => exact hdesired hkind _ hmem _ hf
  | evidence hkind hmem hkept hf => exact hevidence _ hkind _ hmem _ _ hkept hf

/-- Only checks of interfaces have patterns. -/
theorem patterns_eq_nil (hkind : c.kind ≠ .interfacesUp) : c.patterns = [] := by
  rw [Check.patterns]
  split
  · exact absurd (by assumption) hkind
  · rfl

/-- A check that looks neither at switches nor at desired configurations has no hindrance but its
parameters. -/
theorem unhindered_of_scope {scope : Scope} (hscope : c.scope = .ok scope)
    (hkind : c.kind ≠ .configContains) (hevidence : c.kind.evidence? = none) (store : Store) :
    ∀ f, ¬ Hindrance s c f store := by
  refine not_hindrance hscope ?_ (fun h => absurd h hkind) ?_
  · rw [patterns_eq_nil (fun h => by rw [h] at hevidence; cases hevidence)]
    nofun
  · rw [hevidence]
    nofun

/-! ## Checks of nodes -/

/-- **A result for every selected node.** If the step for a node either gives the result of the node
and makes sure that the node is no hindrance, or else ends at a hindrance, then the loop over all
selected nodes is complete or ends at one. -/
theorem perNode_ends {selector : Selector} {good : String → Store → Prop}
    {step : String → Audit σ Result} (hscope : c.scope = .ok (.nodes selector))
    (hstable : ∀ node ⦃st st' : Store⦄, st.Grows st' → good node st → good node st')
    (hstep : ∀ node, Ends s.lab (fun r st => c.Answers (c.nodeName node) r ∧ good node st)
      (fun f st => node ∈ c.nodes s.intent.inventory → Hindrance s c f st) (step node))
    (hgood : ∀ st, (∀ node ∈ c.nodes s.intent.inventory, good node st) →
      ∀ f, ¬ Hindrance s c f st) :
    Ends s.lab (Complete s c) (Hindrance s c)
      ((selector.resolve s.intent.inventory).mapM step) := by
  have hnodes : c.nodes s.intent.inventory = selector.resolve s.intent.inventory := by
    rw [Check.nodes, hscope]
  have hloop := Ends.mapM (fun node r st st' hgrows h => ⟨h.1, hstable node hgrows h.2⟩) hstep
    (selector.resolve s.intent.inventory)
  refine hloop.imp (fun rs st hrs => ⟨⟨_, hscope, ?_⟩, hgood st fun node hnode => ?_⟩) ?_
  · rw [Scope.names, List.forall₂_map_left_iff]
    exact hrs.imp fun _ _ h => h.1
  · -- every node has a result, and with it what the step made sure of
    rw [hnodes] at hnode
    obtain ⟨i, hi, rfl⟩ := List.getElem_of_mem hnode
    exact (hrs.get hi (by rw [← hrs.length_eq]; exact hi)).2
  · rintro f st ⟨node, hnode, h⟩
    exact h (by rw [hnodes]; exact hnode)

theorem configContains_ends (hkind : c.kind = .configContains) :
    Ends s.lab (Complete s c) (Hindrance s c) (configContains s c) := by
  refine withParams_ends (by rw [Check.scope, hkind]) fun p _ hscope => ?_
  have hstep : ∀ node, Ends s.lab
      (fun r _ => c.Answers (c.nodeName node) r ∧ ∀ f, s.lab.desired node ≠ .error f)
      (fun f st => node ∈ c.nodes s.intent.inventory → Hindrance s c f st)
      (do pure (configResult c p.required node
        (← Audit.ofExcept (s.lab.desiredText node))) : Audit σ Result) := by
    intro node
    -- only the desired configuration may be in the way
    have hdesired : Ends s.lab (fun _ _ => ∀ f, s.lab.desired node ≠ .error f)
        (fun f st => node ∈ c.nodes s.intent.inventory → Hindrance s c f st)
        (Audit.ofExcept (s.lab.desiredText node)) := by
      rw [Lab.desiredText]
      cases hd : s.lab.desired node with
      | ok text => exact .ofExcept (fun _ _ _ => nofun) nofun
      | error f =>
          refine .ofExcept nofun fun e he st hmem => ?_
          cases he
          exact .desired hkind hmem hd
    refine hdesired.bind_of fun text hok => .pure fun _ => ⟨?_, hok⟩
    rw [configResult]
    split
    · exact .outcome _ _ _ _ _
    · exact (Check.Answers.outcome _ _ _ _ _).withRemediation _
  refine perNode_ends hscope (fun _ _ _ _ h => h) hstep fun st hgood => ?_
  refine not_hindrance hscope ?_ (fun _ => hgood) ?_
  · rw [patterns_eq_nil (by rw [hkind]; nofun)]
    nofun
  · rw [hkind]
    nofun

/-! ## Checks of switches -/

/-- A store has evidence on a node that reads. -/
def Readable (kind : EvidenceKind) (node : String) (store : Store) : Prop :=
  ∃ r, Keyed.get? store.records (kind.key node) = some r ∧ ∀ f, kind.readPart r ≠ .error f

theorem Readable.mono (kind : EvidenceKind) (node : String) ⦃st st' : Store⦄ (hgrows : st.Grows st')
    (h : Readable kind node st) : Readable kind node st' := by
  obtain ⟨r, hkept, hreads⟩ := h
  exact ⟨r, hgrows.records hkept, hreads⟩

/-- A loop over switches is complete, or ends at evidence that does not read, if each of its steps
looks at the evidence on its node. -/
theorem perSwitch_ends {kind : EvidenceKind} {selector : Selector} {step : String → Audit σ Result}
    (hkind : c.kind.evidence? = some kind) (hscope : c.scope = .ok (.nodes selector))
    (hpatterns : ∀ text ∈ c.patterns, ∀ f, Pattern.ofText text ≠ .error f)
    (hstep : ∀ node, Ends s.lab
      (fun r st => c.Answers (c.nodeName node) r ∧ Readable kind node st)
      (fun f st => node ∈ c.nodes s.intent.inventory → Hindrance s c f st) (step node)) :
    Ends s.lab (Complete s c) (Hindrance s c)
      ((selector.resolve s.intent.inventory).mapM step) := by
  refine perNode_ends hscope (Readable.mono kind) hstep fun st hgood => ?_
  refine not_hindrance hscope hpatterns (fun h => by rw [h] at hkind; cases hkind) ?_
  intro kind' hkind' node hnode r f hkept
  obtain rfl : kind = kind' := Option.some.inj (hkind.symm.trans hkind')
  obtain ⟨r', hkept', hreads⟩ := hgood node hnode
  obtain rfl : r = r' := Option.some.inj (hkept.symm.trans hkept')
  exact hreads f

/-- The step of a check that reads a part of the evidence on a node. -/
theorem readStep_ends {α : Type} {kind : EvidenceKind} {read : Record → Except ReadFault α}
    {result : Record → α → Result} {node : String} (hkind : c.kind.evidence? = some kind)
    (hread : ∀ r, kind.readPart r = (read r).map fun _ => ())
    (hresult : ∀ r a, c.Answers (c.nodeName node) (result r a)) :
    Ends s.lab (fun y st => c.Answers (c.nodeName node) y ∧ Readable kind node st)
      (fun f st => node ∈ c.nodes s.intent.inventory → Hindrance s c f st)
      (do
        let record ← kind.collect s.lab s.transport node
        let a ← Audit.ofReading (read record)
        pure (result record a)) := by
  refine (kind.collect_ends s.transport node).bind (fun r st st' hgrows h => hgrows.records h) fun r => ?_
  have hreading : Ends s.lab (fun a _ => read r = .ok a)
      (fun f st => Keyed.get? st.records (kind.key node) = some r →
        node ∈ c.nodes s.intent.inventory → Hindrance s c f st) (Audit.ofReading (read r)) := by
    refine .ofReading (fun _ ha _ => ha) fun f hf st hkept hmem => ?_
    exact .evidence hkind hmem hkept (by rw [hread, hf]; rfl)
  refine hreading.bind_of fun a ha => .pure fun st hkept => ⟨hresult r a, r, hkept, ?_⟩
  rw [hread, ha]
  nofun

/-- Texts are read one after the other, so all of them make sense if they are all read. -/
theorem reads_of_mapM {texts : List String} {patterns : List Pattern}
    (h : texts.mapM (fun text => (Pattern.ofText text).mapError Fault.pattern) = .ok patterns) :
    ∀ text ∈ texts, ∀ f, Pattern.ofText text ≠ .error f := by
  intro text hmem f hf
  obtain ⟨i, hi, rfl⟩ := List.getElem_of_mem hmem
  have hforall := Except.mapM_eq_ok_iff.mp h
  have hi' : i < patterns.length := by rw [← hforall.length_eq]; exact hi
  have hread := Except.mapError_eq_ok_iff.mp (hforall.get hi hi')
  rw [List.get_eq_getElem, hf] at hread
  cases hread

/-- There are rules only if all of their patterns make sense. -/
theorem reads_of_ofParams {p : InterfacesUp} {rules : InterfaceRules}
    (h : InterfaceRules.ofParams p = .ok rules) :
    ∀ text ∈ p.namePatterns ++ p.descriptionPatterns ++ p.ignoredPatterns, ∀ f,
      Pattern.ofText text ≠ .error f := by
  obtain ⟨names, hnames, h⟩ := Except.bind_eq_ok_iff.mp h
  obtain ⟨descriptions, hdescriptions, h⟩ := Except.bind_eq_ok_iff.mp h
  obtain ⟨ignored, hignored, _⟩ := Except.bind_eq_ok_iff.mp h
  intro text hmem
  rcases List.mem_append.mp hmem with hmem | hmem
  · rcases List.mem_append.mp hmem with hmem | hmem
    · exact reads_of_mapM hnames text hmem
    · exact reads_of_mapM hdescriptions text hmem
  · exact reads_of_mapM hignored text hmem

/-- The patterns of a check of interfaces are all read before anything else is done. -/
theorem ofParams_ends {p : InterfacesUp}
    (hpatterns : c.patterns = p.namePatterns ++ p.descriptionPatterns ++ p.ignoredPatterns) :
    Ends s.lab (fun _ _ => ∀ text ∈ c.patterns, ∀ f, Pattern.ofText text ≠ .error f)
      (Hindrance s c) (Audit.ofExcept (InterfaceRules.ofParams p)) := by
  have herror : ∀ {texts : List String} {f : Fault} {st : Store}, (∀ text ∈ texts, text ∈ c.patterns) →
      texts.mapM (fun text => (Pattern.ofText text).mapError Fault.pattern) = .error f →
      Hindrance s c f st := by
    intro texts f st hmem h
    obtain ⟨text, htext, h⟩ := Except.exists_of_mapM_eq_error h
    obtain ⟨f', hf', rfl⟩ := Except.mapError_eq_error_iff.mp h
    exact .pattern (hmem text htext) hf'
  refine .ofExcept (fun rules h _ => ?_) fun f h st => ?_
  · rw [hpatterns]
    exact reads_of_ofParams h
  · rcases Except.bind_eq_error_iff.mp h with h | ⟨_, _, h⟩
    · exact herror (fun text hmem => by rw [hpatterns]; simp [hmem]) h
    rcases Except.bind_eq_error_iff.mp h with h | ⟨_, _, h⟩
    · exact herror (fun text hmem => by rw [hpatterns]; simp [hmem]) h
    rcases Except.bind_eq_error_iff.mp h with h | ⟨_, _, h⟩
    · exact herror (fun text hmem => by rw [hpatterns]; simp [hmem]) h
    · cases h

theorem interfacesUp_ends (hkind : c.kind = .interfacesUp) :
    Ends s.lab (Complete s c) (Hindrance s c) (interfacesUp s c) := by
  refine withParams_ends (by rw [Check.scope, hkind]) fun p hp hscope => ?_
  have hpatterns : c.patterns = p.namePatterns ++ p.descriptionPatterns ++ p.ignoredPatterns := by
    rw [Check.patterns, hkind, hp]
  refine (ofParams_ends hpatterns).bind_of fun rules hrules => ?_
  have hevidence : c.kind.evidence? = some .interfaces := by rw [hkind]; rfl
  refine perSwitch_ends hevidence hscope hrules fun node => ?_
  exact readStep_ends hevidence (fun _ => rfl) fun _ _ => .outcome _ _ _ _ _

theorem bgpEstablished_ends (hkind : c.kind = .bgpEstablished) :
    Ends s.lab (Complete s c) (Hindrance s c) (bgpEstablished s c) := by
  refine withParams_ends (by rw [Check.scope, hkind]) fun p _ hscope => ?_
  have hevidence : c.kind.evidence? = some .sessions := by rw [hkind]; rfl
  have hpatterns : c.patterns = [] := patterns_eq_nil (by rw [hkind]; nofun)
  refine perSwitch_ends hevidence hscope (by rw [hpatterns]; nofun) fun node => ?_
  exact readStep_ends hevidence (fun _ => rfl) fun _ _ => .outcome _ _ _ _ _

theorem evpnSessionsUp_ends (hkind : c.kind = .evpnSessionsUp) :
    Ends s.lab (Complete s c) (Hindrance s c) (evpnSessionsUp s c) := by
  refine withParams_ends (by rw [Check.scope, hkind]) fun p _ hscope => ?_
  have hevidence : c.kind.evidence? = some .evpnSummary := by rw [hkind]; rfl
  have hpatterns : c.patterns = [] := patterns_eq_nil (by rw [hkind]; nofun)
  refine perSwitch_ends hevidence hscope (by rw [hpatterns]; nofun) fun node => ?_
  exact readStep_ends hevidence (fun _ => rfl) fun _ _ => .outcome _ _ _ _ _

theorem evpnRoutesPresent_ends (hkind : c.kind = .evpnRoutesPresent) :
    Ends s.lab (Complete s c) (Hindrance s c) (evpnRoutesPresent s c) := by
  refine withParams_ends (by rw [Check.scope, hkind]) fun p _ hscope => ?_
  have hevidence : c.kind.evidence? = some .evpnRoutes := by rw [hkind]; rfl
  have hpatterns : c.patterns = [] := patterns_eq_nil (by rw [hkind]; nofun)
  refine perSwitch_ends hevidence hscope (by rw [hpatterns]; nofun) fun node => ?_
  refine (EvidenceKind.collect_ends s.transport .evpnRoutes node).bind
    (fun r st st' hgrows h => hgrows.records h) fun r => ?_
  -- texts are taken as they are, so a record of routes always reads
  exact .pure fun st hkept => ⟨.outcome _ _ _ _ _, r, hkept, nofun⟩

/-! ## Probes -/

/-- A command for the shell of a host ends in no fault but one of its own. -/
theorem shell_ends {cause : Fault → Store → Prop} (host command : String) :
    Ends s.lab (fun _ _ => True) cause (Audit.ofWork (s.lab.shell host command)) :=
  .perform _

/-- **A result for every address of a host**, whether it is pinged or not. -/
theorem pingProbe_ends (interface : Option String) (probe : PingProbe) :
    Ends s.lab
      (fun rs _ => List.Forall₂ c.Answers (probe.targets.map (c.probeName probe.source)) rs)
      (Hindrance s c) (pingProbe s c interface probe) := by
  have hping : Ends s.lab
      (fun rs _ => List.Forall₂ c.Answers (probe.targets.map (c.probeName probe.source)) rs)
      (Hindrance s c)
      (probe.targets.mapM fun target => do
        let reply ← Audit.ofWork (Host.ping s.lab probe.source target interface)
        pure (pingResult c probe.source target reply) : Audit σ (List Result)) := by
    have hstep : ∀ target, Ends s.lab (fun r _ => c.Answers (c.probeName probe.source target) r)
        (fun _ _ => False)
        (do pure (pingResult c probe.source target
          (← Audit.ofWork (Host.ping s.lab probe.source target interface))) : Audit σ Result) :=
      fun target => (shell_ends _ _).bind_of fun reply _ => .pure fun _ => .outcome _ _ _ _ _
    refine (Ends.mapM (fun _ _ _ _ _ h => h) hstep probe.targets).imp (fun rs st h => ?_) ?_
    · rw [List.forall₂_map_left_iff]
      exact h
    · rintro f st ⟨_, _, h⟩
      exact h.elim
  -- with an interface, the host is asked first whether it has it
  cases interface with
  | none => exact hping
  | some i =>
      have hlist : Ends s.lab (fun _ _ => True) (Hindrance s c)
          (Audit.ofWork (Host.interfaces s.lab probe.source)) := by
        rw [Host.interfaces, Audit.ofWork_bind]
        exact (shell_ends _ _).bind_of fun reply _ => .pure fun _ => trivial
      refine hlist.bind_of fun found _ => ?_
      by_cases hlacks : lacks found i = true
      · rw [if_pos hlacks]
        refine .pure fun _ => ?_
        rw [List.forall₂_map_left_iff, List.forall₂_map_right_iff, List.forall₂_same]
        exact fun target _ => (Check.Answers.failed _ _ _).withEvidence _
      · rw [if_neg hlacks]
        exact hping

theorem pingTargets_ends (hkind : c.kind = .pingTargets) :
    Ends s.lab (Complete s c) (Hindrance s c) (pingTargets s c) := by
  refine withParams_ends (by rw [Check.scope, hkind]) fun p _ hscope => ?_
  have hloop : Ends s.lab (fun rss _ => List.Forall₂ (List.Forall₂ c.Answers)
      (p.probes.map fun probe => probe.targets.map (c.probeName probe.source)) rss)
      (Hindrance s c) (p.probes.mapM (pingProbe s c (through p))) := by
    refine (Ends.mapM (fun _ _ _ _ _ h => h) (pingProbe_ends (through p)) p.probes).imp
      (fun rss st h => ?_) ?_
    · rw [List.forall₂_map_left_iff]
      exact h
    · rintro f st ⟨_, _, h⟩
      exact h
  -- the results of all probes are joined, and so are their names
  refine hloop.bind_of fun rss hrss => .pure fun st => ⟨⟨_, hscope, ?_⟩, ?_⟩
  · have hnames : (Scope.probes (p.probes.flatMap fun probe =>
        probe.targets.map fun target => (probe.source, target))).names c s.intent.inventory
        = (p.probes.map fun probe => probe.targets.map (c.probeName probe.source)).flatten := by
      simp only [Scope.names, List.flatMap_def, List.map_flatten, List.map_map,
        Function.comp_def]
      rfl
    rw [hnames]
    exact List.rel_flatten hrss
  · exact unhindered_of_scope hscope (by rw [hkind]; nofun) (by rw [hkind]; rfl) st

theorem neighborAbsent_ends (hkind : c.kind = .neighborAbsent) :
    Ends s.lab (Complete s c) (Hindrance s c) (neighborAbsent s c) := by
  refine withParams_ends (by rw [Check.scope, hkind]) fun p _ hscope => ?_
  have hstep : ∀ probe : NeighborProbe,
      Ends s.lab (fun r _ => c.Answers (c.probeName probe.source probe.target) r)
        (fun _ _ => False) (neighborProbe s c probe) :=
    fun probe => (shell_ends _ _).bind_of fun _ _ => (shell_ends _ _).bind_of fun reply _ =>
      .pure fun _ => .outcome _ _ _ _ _
  refine (Ends.mapM (fun _ _ _ _ _ h => h) hstep p.probes).imp (fun rs st h => ?_) ?_
  · refine ⟨⟨_, hscope, ?_⟩, ?_⟩
    · rw [Scope.names, List.map_map, List.forall₂_map_left_iff]
      exact h
    · exact unhindered_of_scope hscope (by rw [hkind]; nofun) (by rw [hkind]; rfl) st
  · rintro f st ⟨_, _, h⟩
    exact h.elim

/-! ## Checks of the intent, and unknown ones -/

theorem intentDistinct_ends (hkind : c.kind = .intentDistinct) :
    Ends s.lab (Complete s c) (Hindrance s c) (intentDistinct s c) := by
  refine withParams_ends (by rw [Check.scope, hkind]) fun p _ hscope => .pure fun st => ?_
  refine ⟨⟨_, hscope, ?_⟩, unhindered_of_scope hscope (by rw [hkind]; nofun) (by rw [hkind]; rfl) st⟩
  exact .cons (.outcome _ _ _ _ _) .nil

theorem unsupported_ends {name : String} (hkind : c.kind = .unsupported name) :
    Ends s.lab (Complete s c) (Hindrance s c) (pure [Result.unsupported c]) := by
  have hscope : c.scope = .ok .whole := by rw [Check.scope, hkind]
  refine .pure fun st => ⟨⟨_, hscope, ?_⟩, ?_⟩
  · exact .cons (.failed _ _ _) .nil
  · exact unhindered_of_scope hscope (by rw [hkind]; nofun) (by rw [hkind]; rfl) st

/-! ## Every check -/

/-- **Every check ends complete and unhindered, or at a hindrance or a command.** -/
theorem ofCheck_ends (s : Subject σ) (c : Check) :
    Ends s.lab (Complete s c) (Hindrance s c) (ofCheck s c) := by
  rw [ofCheck]
  cases hkind : c.kind with
  | configContains => exact configContains_ends hkind
  | interfacesUp => exact interfacesUp_ends hkind
  | bgpEstablished => exact bgpEstablished_ends hkind
  | evpnRoutesPresent => exact evpnRoutesPresent_ends hkind
  | evpnSessionsUp => exact evpnSessionsUp_ends hkind
  | pingTargets => exact pingTargets_ends hkind
  | neighborAbsent => exact neighborAbsent_ends hkind
  | intentDistinct => exact intentDistinct_ends hkind
  | unsupported name => exact unsupported_ends hkind

/-- What comes of a check: its results, or one that says that it crashed. -/
theorem runCheck_eq (s : Subject σ) (c : Check) (st : Audit.State σ) :
    runCheck s c st =
      match ofCheck s c st with
      | (.ok rs, st') => (rs, st')
      | (.error f, st') => ([Result.crashed c f.message], st') := by
  rcases hrun : ofCheck s c st with ⟨f | rs, st'⟩
  · simp only [runCheck, bind, StateT.bind, ExceptT.run, hrun]
    rfl
  · simp only [runCheck, bind, StateT.bind, ExceptT.run, hrun]
    rfl

/-- **Complete or crashed.** A check gives one of two things. If something was in its way, that is a
single failure under the name of the check that is an error, counts for its phase and tells what it
was. If nothing was in its way, these are all of its results, in the order of their names, which the
check and the inventory determine; each counts for the phase of the check and either passes, as mere
information, or fails with the severity of the check. -/
theorem runCheck_complete_or_crashed (s : Subject σ) (c : Check) (st : Audit.State σ) :
    (∃ f r, Obstacle s c st (runCheck s c st).2 f ∧ (runCheck s c st).1 = [r] ∧
      r.name = c.name ∧ r.phase = c.phase ∧ r.status = .fail ∧ r.severity = .error ∧
      r.message = "Check crashed: " ++ f.message) ∨
    ((∀ f, ¬ Obstacle s c st (runCheck s c st).2 f) ∧
      ∃ scope, c.scope = .ok scope ∧
        List.Forall₂ c.Answers (scope.names c s.intent.inventory) (runCheck s c st).1) := by
  have hend := ofCheck_ends s c st
  rw [runCheck_eq]
  rcases hrun : ofCheck s c st with ⟨f | rs, st'⟩ <;> rw [hrun] at hend
  · refine .inl ⟨f, _, ?_, rfl, rfl, rfl, rfl, rfl, rfl⟩
    cases hend with
    | refused h hf => exact .inl ⟨_, h.calls_eq, hf⟩
    | failed _ hcause => exact .inr hcause
  · cases hend with
    | answered h hall hcomplete =>
        refine .inr ⟨fun f hf => ?_, hcomplete.results⟩
        rcases hf with ⟨calls, hcalls, hf⟩ | hf
        · -- the commands between the two states are those of this run
          rw [h.calls_eq, List.append_cancel_left_eq] at hcalls
          subst hcalls
          exact hall f hf
        · exact hcomplete.unhindered f hf

end FabricAudit.Verdict
